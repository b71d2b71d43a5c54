import DatedMoney.Decimal.Basic
import DatedMoney.Text.Numeral
import Mathlib.Data.List.Basic

/-!
# Numbers in digits

A row of digits is determined by its length and its value (`eq_of_ofDigitChars_eq`), and one without
a zero in front is what is written for its value (`toDigits_ofDigitChars`). What is read has no more
digits than its text has characters (`natAbs_lt_of_readWhole?`).
-/

namespace DatedMoney.Text

/-! ## Integers that can be written -/

theorem isShort_iff {n : Int} : isShort n ↔ n.natAbs < 10 ^ maxDigits := by
  rw [isShort, decide_eq_true_eq, Nat.length_toDigits_le_iff (by decide) (by decide)]

theorem isShort_of_natAbs_le {m n : Int} (h : m.natAbs ≤ n.natAbs) (hn : isShort n) :
    isShort m :=
  isShort_iff.2 (Nat.lt_of_le_of_lt h (isShort_iff.1 hn))

/-! ## Digits -/

theorem isDigit_iff {c : Char} : isDigit c ↔ 48 ≤ c.toNat ∧ c.toNat ≤ 57 := by
  simp only [isDigit, Bool.and_eq_true, decide_eq_true_eq, Char.le_def, UInt32.le_iff_toNat_le]
  rfl

theorem isDigit_of_mem_toDigits {n : Nat} {c : Char} (h : c ∈ Nat.toDigits 10 n) : isDigit c := by
  have := Nat.isDigit_of_mem_toDigits (by decide) (by decide) h
  simpa [isDigit, Char.isDigit, Char.le_def] using this

theorem ofDigitChars_cons (c : Char) (cs : List Char) :
    Nat.ofDigitChars 10 (c :: cs) 0 =
      10 ^ cs.length * (c.toNat - 48) + Nat.ofDigitChars 10 cs 0 := by
  rw [Nat.ofDigitChars_cons, Nat.ofDigitChars_eq_ofDigitChars_zero]
  simp

theorem ofDigitChars_lt {cs : List Char} (h : ∀ c ∈ cs, isDigit c) :
    Nat.ofDigitChars 10 cs 0 < 10 ^ cs.length := by
  induction cs with
  | nil => decide
  | cons c cs ih =>
    have hc := isDigit_iff.1 (h c List.mem_cons_self)
    have hlt := ih fun c hc => h c (List.mem_cons_of_mem _ hc)
    have hle : 10 ^ cs.length * (c.toNat - 48) ≤ 10 ^ cs.length * 9 :=
      Nat.mul_le_mul_left _ (by omega)
    rw [ofDigitChars_cons, List.length_cons, Nat.pow_succ]
    omega

theorem eq_of_ofDigitChars_eq {cs cs' : List Char} (h : ∀ c ∈ cs, isDigit c)
    (h' : ∀ c ∈ cs', isDigit c) (hlen : cs.length = cs'.length)
    (hval : Nat.ofDigitChars 10 cs 0 = Nat.ofDigitChars 10 cs' 0) : cs = cs' := by
  induction cs generalizing cs' with
  | nil => exact (List.eq_nil_of_length_eq_zero hlen.symm).symm
  | cons c cs ih =>
    cases cs' with
    | nil => cases hlen
    | cons c' cs' =>
      have hlen : cs.length = cs'.length := Nat.succ.inj hlen
      have hcs : ∀ c ∈ cs, isDigit c := fun c hc => h c (List.mem_cons_of_mem _ hc)
      have hcs' : ∀ c ∈ cs', isDigit c := fun c hc => h' c (List.mem_cons_of_mem _ hc)
      have hlt := ofDigitChars_lt hcs
      have hlt' := ofDigitChars_lt hcs'
      rw [← hlen] at hlt'
      rw [ofDigitChars_cons, ofDigitChars_cons, ← hlen] at hval
      have hdigit : c.toNat - 48 = c'.toNat - 48 := by
        have hpow : 0 < 10 ^ cs.length := Nat.pow_pos (by decide)
        have := congrArg (· / 10 ^ cs.length) hval
        simpa only [Nat.mul_add_div hpow, Nat.div_eq_of_lt hlt, Nat.div_eq_of_lt hlt', Nat.add_zero]
          using this
      rw [hdigit] at hval
      have hc := isDigit_iff.1 (h c List.mem_cons_self)
      have hc' := isDigit_iff.1 (h' c' List.mem_cons_self)
      have htoNat : c.toNat = c'.toNat := by omega
      rw [Char.toNat_inj.1 htoNat, ih hcs hcs' hlen (by omega)]

/-! ## Digits with zeros in front -/

theorem leftpad_eq (w : Nat) (cs : List Char) :
    cs.leftpad w '0' = List.replicate (w - cs.length) '0' ++ cs := rfl

theorem isDigit_of_mem_leftpad {w n : Nat} {c : Char} (h : c ∈ (Nat.toDigits 10 n).leftpad w '0') :
    isDigit c := by
  rw [leftpad_eq] at h
  rcases List.mem_append.1 h with h | h
  · rw [List.eq_of_mem_replicate h]
    decide
  · exact isDigit_of_mem_toDigits h

theorem ofDigitChars_leftpad (w n : Nat) :
    Nat.ofDigitChars 10 ((Nat.toDigits 10 n).leftpad w '0') 0 = n := by
  rw [leftpad_eq, Nat.ofDigitChars_append, Nat.ofDigitChars_replicate_zero, Nat.mul_zero,
    Nat.ofDigitChars_ten_toDigits]

theorem length_leftpad_eq_iff {w n : Nat} (hw : 0 < w) :
    ((Nat.toDigits 10 n).leftpad w '0').length = w ↔ n < 10 ^ w := by
  rw [← Nat.length_toDigits_le_iff (by decide) hw, List.length_leftpad]
  omega

/-! ## Digits without zeros in front -/

theorem pow_le_ofDigitChars {c : Char} (hc : isDigit c) (h0 : c ≠ '0') (cs : List Char) :
    10 ^ cs.length ≤ Nat.ofDigitChars 10 (c :: cs) 0 := by
  have hc := isDigit_iff.1 hc
  have h48 : c.toNat ≠ 48 := fun h => h0 (Char.toNat_inj.1 h)
  calc 10 ^ cs.length ≤ 10 ^ cs.length * (c.toNat - 48) := Nat.le_mul_of_pos_right _ (by omega)
    _ ≤ Nat.ofDigitChars 10 (c :: cs) 0 := by
      rw [ofDigitChars_cons]
      exact Nat.le_add_right ..

/-- Digits without a zero in front, or a single zero, are what is written for their value. -/
theorem toDigits_ofDigitChars {c : Char} {cs : List Char} (h : ∀ x ∈ c :: cs, isDigit x)
    (h0 : c = '0' → cs = []) : Nat.toDigits 10 (Nat.ofDigitChars 10 (c :: cs) 0) = c :: cs := by
  refine eq_of_ofDigitChars_eq (fun x => isDigit_of_mem_toDigits) h ?_ Nat.ofDigitChars_ten_toDigits
  refine Nat.le_antisymm ?_ ?_
  · exact (Nat.length_toDigits_le_iff (by decide) (by simp)).2 (ofDigitChars_lt h)
  cases cs with
  | nil => exact Nat.length_toDigits_pos
  | cons c' cs =>
    have hpow := pow_le_ofDigitChars (h c List.mem_cons_self) (fun hc => by cases h0 hc) (c' :: cs)
    have hlt := mt (Nat.length_toDigits_le_iff (b := 10) (by decide) (Nat.succ_pos cs.length)).1
      (Nat.not_lt.2 hpow)
    exact Nat.not_le.1 hlt

/-- Only zero is written with a zero in front. -/
theorem eq_nil_of_toDigits_eq {n : Nat} {cs : List Char} (h : Nat.toDigits 10 n = '0' :: cs) :
    cs = [] := by
  have hval : Nat.ofDigitChars 10 cs 0 = n := by
    rw [← Nat.ofDigitChars_ten_toDigits (n := n), h, ofDigitChars_cons]
    simp
  have hdigits : ∀ x ∈ cs, isDigit x :=
    fun x hx => isDigit_of_mem_toDigits (h ▸ List.mem_cons_of_mem _ hx)
  by_contra hne
  have hlen := (Nat.length_toDigits_le_iff (b := 10) (by decide) (List.length_pos_of_ne_nil hne)).2
    (hval ▸ ofDigitChars_lt hdigits)
  rw [h, List.length_cons] at hlen
  omega

/-! ## How large a number in digits is -/

section
variable {value? : Char → Option Nat} {n : Nat} (hvalue : ∀ c d, value? c = some d → d < 10)
include hvalue

theorem moreDigits?_lt {acc : Nat} {cs : List Char}
    (h : moreDigits? value? acc cs = some n) : n < (acc + 1) * 10 ^ cs.length := by
  have hstep {acc d : Nat} (hd : d < 10) (k : Nat) :
      (10 * acc + d + 1) * 10 ^ k ≤ (acc + 1) * 10 ^ (k + 1) := by
    rw [Nat.pow_succ', ← Nat.mul_assoc]
    exact Nat.mul_le_mul_right _ (by omega)
  induction acc, cs using moreDigits?.induct with
  | case1 acc =>
    cases h
    simp
  | case2 acc c cs ih =>
    obtain ⟨d, hd, h⟩ := Option.bind_eq_some_iff.1 h
    have hlt := Nat.lt_of_lt_of_le (ih d h) (hstep (hvalue c d hd) cs.length)
    refine Nat.lt_of_lt_of_le hlt (Nat.mul_le_mul_left _ (Nat.pow_le_pow_right (by decide) ?_))
    simp
  | case3 acc c cs hne ih =>
    rw [moreDigits?] at h
    · obtain ⟨d, hd, h⟩ := Option.bind_eq_some_iff.1 h
      exact Nat.lt_of_lt_of_le (ih d h) (hstep (hvalue c d hd) cs.length)
    · exact hne

theorem digitRow?_lt {cs : List Char}
    (h : digitRow? value? cs = some n) : n < 10 ^ cs.length := by
  cases cs with
  | nil => cases h
  | cons c cs =>
    obtain ⟨d, hd, h⟩ := Option.bind_eq_some_iff.1 h
    refine Nat.lt_of_lt_of_le (moreDigits?_lt hvalue h) ?_
    rw [List.length_cons, Nat.pow_succ']
    exact Nat.mul_le_mul_right _ (hvalue c d hd)

/-- A number with a sign has no more digits than its text has characters. -/
theorem natAbs_lt_of_signedRow? {cs : List Char}
    {z : Int} (h : signedRow? value? cs = some z) : z.natAbs < 10 ^ cs.length := by
  have hlt {ds : List Char} {n : Nat} (hds : ds.length ≤ cs.length)
      (hn : digitRow? value? ds = some n) : n < 10 ^ cs.length :=
    Nat.lt_of_lt_of_le (digitRow?_lt hvalue hn) (Nat.pow_le_pow_right (by decide) hds)
  unfold signedRow? at h
  split at h
  · obtain ⟨n, hn, rfl⟩ := Option.map_eq_some_iff.1 h
    rw [Int.natAbs_neg]
    exact hlt (Nat.le_succ _) hn
  · obtain ⟨n, hn, rfl⟩ := Option.map_eq_some_iff.1 h
    exact hlt (Nat.le_succ _) hn
  · obtain ⟨n, hn, rfl⟩ := Option.map_eq_some_iff.1 h
    exact hlt (Nat.le_refl _) hn

end

theorem plainDigitValue?_lt {c : Char} {d : Nat} (h : plainDigitValue? c = some d) : d < 10 := by
  rw [plainDigitValue?] at h
  split at h
  · rename_i hc
    cases h
    have := isDigit_iff.1 hc
    omega
  · cases h

theorem length_strip_le (p : Char → Bool) (cs : List Char) : (strip p cs).length ≤ cs.length := by
  rw [strip, List.length_reverse]
  refine Nat.le_trans (List.dropWhile_sublist p).length_le ?_
  rw [List.length_reverse]
  exact (List.dropWhile_sublist p).length_le

theorem natAbs_lt_of_readWhole? {s : String} {z : Int} (h : readWhole? s = some z) :
    z.natAbs < 10 ^ s.length := by
  have hlength := length_strip_le isPlainBlank s.toList
  rw [String.length_toList] at hlength
  have hlt {cs : List Char} (hcs : cs.length ≤ s.length)
      (hz : signedRow? plainDigitValue? cs = some z) : z.natAbs < 10 ^ s.length :=
    Nat.lt_of_lt_of_le (natAbs_lt_of_signedRow? (fun _ _ => plainDigitValue?_lt) hz)
      (Nat.pow_le_pow_right (by decide) hcs)
  rw [readWhole?] at h
  split at h
  · exact hlt hlength h
  · split at h
    · exact hlt (Nat.le_trans (List.takeWhile_sublist _).length_le hlength) h
    · cases h

end DatedMoney.Text
