import DatedMoney.Notation.Writer
import DatedMoney.Proofs.Decimal.Cents
import DatedMoney.Proofs.Decimal.Grouping
import DatedMoney.Proofs.Notation.Date
import DatedMoney.Proofs.Outcome

/-!
# Amounts as they are written

An amount is written for the nearest number of cents, and which text that is depends on nothing else
(`amountToChars_finite`). An amount of the grammar is written as it stands exactly if it is
canonical (`AmountText.canonical_iff`).
-/

namespace DatedMoney.Notation
open Decimal

/-! ## Digits of cents -/

/-- The text for a number of cents. Cents are left out if there are none. -/
def centsToChars (n : Nat) : List Char :=
  grouped (Nat.toDigits 10 (n / 100)) ++
    partAfter '.' (if n % 100 = 0 then none else some ((Nat.toDigits 10 (n % 100)).leftpad 2 '0'))

theorem leftpad_two {n : Nat} (h : n < 100) :
    (Nat.toDigits 10 n).leftpad 2 '0' = [(n / 10).digitChar, (n % 10).digitChar] := by
  rcases Nat.lt_or_ge n 10 with h10 | h10
  · rw [Nat.toDigits_of_lt_base h10, Nat.div_eq_of_lt h10, Nat.mod_eq_of_lt h10]
    rfl
  · rw [Nat.toDigits_of_base_le (by decide) h10, Nat.toDigits_of_lt_base (by omega)]
    rfl

theorem leftpad_three (n : Nat) :
    (Nat.toDigits 10 n).leftpad 3 '0' =
      Nat.toDigits 10 (n / 100) ++ (Nat.toDigits 10 (n % 100)).leftpad 2 '0' := by
  rcases Nat.lt_or_ge n 100 with h | h
  · have hlen := (Nat.length_toDigits_le_iff (b := 10) (k := 2) (by decide) (by decide)).2 h
    rw [Nat.div_eq_of_lt h, Nat.mod_eq_of_lt h, Nat.toDigits_zero, Text.leftpad_eq, Text.leftpad_eq,
      Nat.succ_sub hlen, List.replicate_succ]
    rfl
  · have hlen := Nat.length_toDigits_pos (b := 10) (n := n / 100)
    rw [leftpad_two (Nat.mod_lt n (by decide)), Nat.mod_mod_of_dvd n (by decide : 10 ∣ 100),
      Nat.toDigits_of_base_le (by decide) (by omega : 10 ≤ n),
      Nat.toDigits_of_base_le (by decide) (by omega : 10 ≤ n / 10), Nat.div_div_eq_div_mul,
      Text.leftpad_eq, List.append_assoc, show n % 100 / 10 = n / 10 % 10 by omega]
    generalize Nat.toDigits 10 (n / (10 * 10)) = ds at *
    rw [List.length_append, List.length_append, List.length_singleton, List.length_singleton,
      Nat.sub_eq_zero_of_le (by omega)]
    rfl

theorem scaled_eq {c k : Nat} {e : Int} {places : Nat} (h : (c * 10 ^ (e + places) : ℚ) = k) :
    shiftLeft c (e + places).toNat / 10 ^ (-places - e).toNat = k := by
  have hshift : shiftLeft c (e + places).toNat = c * 10 ^ (e + places).toNat := by
    rw [shiftLeft]
    split <;> simp_all
  have h10 : 10 ^ (-places - e).toNat * k = c * 10 ^ (e + places).toNat := by
    have hexp : (10 : ℚ) ^ (e + places).toNat = 10 ^ (-places - e).toNat * 10 ^ (e + places) := by
      rw [← zpow_natCast, ← zpow_natCast, ← ten_zpow_add]
      congr 1
      omega
    have : ((10 ^ (-places - e).toNat * k : Nat) : ℚ) = (c * 10 ^ (e + places).toNat : Nat) := by
      push_cast
      rw [← h, hexp]
      ring
    exact_mod_cast this
  rw [hshift, ← h10, Nat.mul_div_cancel_left k (by positivity)]

theorem toGrouped_whole {s : Bool} {c k : Nat} {e : Int} (h : (c * 10 ^ e : ℚ) = k) :
    (Decimal.finite s c e).toGrouped 0 = signChars s ++ grouped (Nat.toDigits 10 k) := by
  have hpad : (Nat.toDigits 10 k).leftpad 1 '0' = Nat.toDigits 10 k := by
    have := Nat.length_toDigits_pos (b := 10) (n := k)
    rw [Text.leftpad_eq, Nat.sub_eq_zero_of_le this]
    rfl
  rw [toGrouped, scaled_eq (k := k) (by simpa using h)]
  rw [Nat.zero_add, hpad, Nat.sub_zero, List.take_length, if_pos rfl, List.append_nil]

theorem toGrouped_cents (s : Bool) (n : Nat) :
    (Decimal.finite s n (-2)).toGrouped 2 = signChars s ++ grouped (Nat.toDigits 10 (n / 100)) ++
      '.' :: (Nat.toDigits 10 (n % 100)).leftpad 2 '0' := by
  have hlen : ((Nat.toDigits 10 (n % 100)).leftpad 2 '0').length = 2 :=
    (Text.length_leftpad_eq_iff (by decide)).2 (Nat.mod_lt n (by decide))
  rw [toGrouped, scaled_eq (k := n) (by simp)]
  rw [leftpad_three, List.length_append, hlen, Nat.add_sub_cancel, List.take_left, List.drop_left,
    if_neg (by decide)]

/-! ## What is written -/

theorem centsToChars_of_mod {n : Nat} (h : n % 100 = 0) :
    centsToChars n = grouped (Nat.toDigits 10 (n / 100)) := by
  rw [centsToChars, if_pos h, partAfter, List.append_nil]

theorem toGrouped_of_whole {s : Bool} {c : Nat} {e : Int} {m : ℤ} (hc : c ≠ 0)
    (h : (Decimal.finite s c e).toRat = m) :
    (Decimal.finite s c e).toGrouped 0 =
      signChars ((Decimal.finite s c e).nearestCents < 0) ++
        centsToChars (Decimal.finite s c e).nearestCents.natAbs := by
  have hcents : (Decimal.finite s c e).nearestCents = m * 100 := by
    rw [nearestCents, h]
    have h100 : Tie.away.nearest ((m * 100 : ℤ) : ℚ) = m * 100 := Tie.nearest_intCast _
    exact_mod_cast h100
  have hm : m ≠ 0 := by
    rintro rfl
    exact hc ((toRat_eq_zero_iff s c e).1 (by simpa using h))
  have habs : (c * 10 ^ e : ℚ) = (m.natAbs : Nat) := by
    rw [← abs_toRat_finite s, h, Nat.cast_natAbs, Int.cast_abs]
  have hsign : decide ((Decimal.finite s c e).nearestCents < 0) = s :=
    Bool.eq_iff_iff.2 (decide_eq_true_iff.trans (nearestCents_neg_iff (by omega)))
  rw [hsign, toGrouped_whole habs, hcents, Int.natAbs_mul, centsToChars_of_mod (by simp)]
  simp

theorem isWhole_cents {s : Bool} {n : Nat} (hn : n ≠ 0) :
    (Decimal.finite s n (-2)).isWhole ↔ n % 100 = 0 := by
  have h := lt_digitCount_iff (k := 2) hn
  simp only [isWhole, Bool.or_eq_true, Bool.and_eq_true, decide_eq_true_eq, hn, or_false]
  constructor
  · rintro (h | h)
    · exact absurd h (by decide)
    · exact h.2
  · exact fun h' => .inr ⟨h.2 (by omega), h'⟩

theorem toGrouped_of_cents (s : Bool) {n : Nat} (hn : n ≠ 0) :
    (Decimal.finite s n (-2)).toGrouped (if (Decimal.finite s n (-2)).isWhole then 0 else 2) =
      signChars s ++ centsToChars n := by
  by_cases h : n % 100 = 0
  · have hk : (n * 10 ^ (-2 : Int) : ℚ) = (n / 100 : Nat) := by
      obtain ⟨k, rfl⟩ := Nat.dvd_of_mod_eq_zero h
      rw [Nat.mul_div_cancel_left k (by decide), Nat.cast_mul, mul_right_comm]
      norm_num
    rw [if_pos ((isWhole_cents hn).2 h), toGrouped_whole hk, centsToChars_of_mod h]
  · rw [if_neg (mt (isWhole_cents hn).1 h), toGrouped_cents, centsToChars, if_neg h,
      List.append_assoc]
    rfl

/-- A number that is whole, or that has few enough digits to be rounded to cents. -/
def Writable (a : Decimal) : Prop := a.isWhole ∨ a.nearestCents.natAbs < 10 ^ 28

instance (a : Decimal) : Decidable (Writable a) := inferInstanceAs (Decidable (_ ∨ _))

/-- What is written for a number depends on its nearest number of cents alone. -/
theorem amountToChars_finite {a : Decimal} (h : a.isFinite) :
    amountToChars a =
      if Writable a then
        .ok (signChars (a.nearestCents < 0) ++ centsToChars a.nearestCents.natAbs)
      else .error .invalidOperation := by
  have hwhole := isWhole_iff h
  obtain ⟨s, c, e, rfl⟩ := exists_finite h
  rw [amountToChars, equal_finite h rfl, Except.ok_bind]
  swap
  · simp
  have hzero : toRat 0 = 0 := (toRat_eq_zero_iff false 0 0).2 rfl
  simp only [hzero, decide_eq_true_eq]
  split
  · rename_i h0
    have hcents : (Decimal.finite s c e).nearestCents = 0 := by simp [nearestCents, h0]
    rw [if_pos (.inl (hwhole.2 ⟨0, by simpa using h0⟩)), hcents]
    rfl
  rename_i h0
  have hc := mt (toRat_eq_zero_iff s c e).2 h0
  split
  · rename_i hw
    have hw : (Decimal.finite s c e).isWhole := by simpa using hw
    obtain ⟨m, hm⟩ := hwhole.1 hw
    rw [if_pos (.inl hw), Except.pure_eq_ok, toGrouped_of_whole hc hm]
  rename_i hw
  have hw : ¬(Decimal.finite s c e).isWhole := by simpa using hw
  rw [toCents_finite]
  by_cases hlt : (Decimal.finite s c e).nearestCents.natAbs < 10 ^ 28
  · rw [if_neg (Nat.not_le.2 hlt), if_pos (.inr hlt), Except.ok_bind]
    by_cases hn : (Decimal.finite s c e).nearestCents = 0
    · simp only [hn]
      rfl
    · have hn' : (Decimal.finite s c e).nearestCents.natAbs ≠ 0 := Int.natAbs_ne_zero.2 hn
      have hsign : decide ((Decimal.finite s c e).nearestCents < 0) = s :=
        Bool.eq_iff_iff.2 (decide_eq_true_iff.trans (nearestCents_neg_iff hn))
      rw [if_neg (by simpa [isZero] using hn), toGrouped_of_cents s hn', hsign]
      rfl
  · have hwritable : ¬Writable (Decimal.finite s c e) := not_or.2 ⟨hw, hlt⟩
    rw [if_pos (Nat.not_lt.1 hlt), if_neg hwritable, Except.error_bind]

/-! ## Canonical amounts -/

namespace AmountText

/-- No zero in front unless it stands alone, commas between groups of three digits counted from the
right, and cents only if there are any. -/
structure Canonical (a : AmountText) : Prop where
  zero : a.first = '0' → a.more = []
  commas : Spaced a.whole.reverse
  cents : ∀ f ∈ a.cents, f.chars ≠ ['0', '0']

/-- How many cents an amount is. -/
def total (a : AmountText) : Nat :=
  Nat.ofDigitChars 10 (a.whole.filter (· ≠ ',')) 0 * 100 + (a.cents.map (·.value)).getD 0

theorem isFinite_value (a : AmountText) : a.value.isFinite := by
  rw [value]
  cases a.cents <;> rfl

theorem toRat_value (a : AmountText) : a.value.toRat = a.total / 100 := by
  cases h : a.cents with
  | none => simp [value, total, h, toRat, signed]
  | some f =>
    have h100 : (10 : ℚ) ^ (-2 : Int) = 1 / 100 := by norm_num
    rw [value_cents h, toRat, signed, total, h, h100, mul_one_div]
    rfl

theorem nearestCents_value (a : AmountText) : a.value.nearestCents = a.total := by
  rw [nearestCents, toRat_value, div_mul_cancel₀ _ (by norm_num), Tie.nearest_natCast]

theorem ne_comma {n : Nat} : ∀ c ∈ Nat.toDigits 10 n, c ≠ ',' := by
  rintro c hc rfl
  exact absurd (Text.isDigit_of_mem_toDigits hc) (by decide)

theorem grouped_ne_nil (n : Nat) : grouped (Nat.toDigits 10 n) ≠ [] := by
  intro h
  have := head?_grouped (Nat.toDigits 10 n)
  rw [h, List.head?_nil, eq_comm, List.head?_eq_none_iff] at this
  exact Nat.toDigits_ne_nil this

theorem head_grouped (n : Nat) :
    (grouped (Nat.toDigits 10 n)).head (grouped_ne_nil n) =
      (Nat.toDigits 10 n).head Nat.toDigits_ne_nil := by
  rw [List.head_eq_iff_head?_eq_some, head?_grouped, List.head?_eq_some_head]

theorem isDigitOrComma_of_mem_grouped {n : Nat} {c : Char} (h : c ∈ grouped (Nat.toDigits 10 n)) :
    isDigitOrComma c := by
  by_cases hc : c = ','
  · simp [isDigitOrComma, hc]
  · have hmem : c ∈ (grouped (Nat.toDigits 10 n)).filter (· ≠ ',') :=
      List.mem_filter.2 ⟨h, decide_eq_true hc⟩
    rw [filter_grouped ne_comma] at hmem
    exact isDigitOrComma_of_isDigit (Text.isDigit_of_mem_toDigits hmem)

theorem mod_lt_fraction (n : Nat) : n % 100 < 10 ^ Part.fraction.width := Nat.mod_lt n (by decide)

/-- The canonical amount of a number of cents. -/
def ofCents (n : Nat) : AmountText where
  first := (grouped (Nat.toDigits 10 (n / 100))).head (grouped_ne_nil _)
  more := (grouped (Nat.toDigits 10 (n / 100))).tail
  cents := if n % 100 = 0 then none else some (.ofNat .fraction (n % 100) (mod_lt_fraction n))
  first_digit := by
    rw [head_grouped]
    exact Text.isDigit_of_mem_toDigits (List.head_mem _)
  more_digits := fun _ h => isDigitOrComma_of_mem_grouped (List.mem_of_mem_tail h)

theorem whole_ofCents (n : Nat) : (ofCents n).whole = grouped (Nat.toDigits 10 (n / 100)) :=
  List.cons_head_tail _

theorem text_ofCents (n : Nat) : (ofCents n).text = centsToChars n := by
  rw [text, whole_ofCents, centsToChars, ofCents]
  split <;> rfl

theorem total_ofCents (n : Nat) : (ofCents n).total = n := by
  rw [total, whole_ofCents, filter_grouped ne_comma, Nat.ofDigitChars_ten_toDigits, ofCents]
  split
  · simp only [Option.map_none, Option.getD_none]
    omega
  · simp only [Option.map_some, Option.getD_some, Numeral.value_ofNat]
    omega

theorem canonical_ofCents (n : Nat) : (ofCents n).Canonical where
  zero := by
    intro h0
    have hdigits := (List.cons_head_tail Nat.toDigits_ne_nil).symm.trans
      (congrArg (· :: _) ((head_grouped (n / 100)).symm.trans h0))
    rw [Text.eq_nil_of_toDigits_eq hdigits] at hdigits
    have hwhole := whole_ofCents n
    rw [hdigits] at hwhole
    exact List.tail_eq_of_cons_eq hwhole
  commas := by
    rw [whole_ofCents]
    exact spaced_grouped ne_comma
  cents := by
    intro f hf h0
    rw [ofCents] at hf
    dsimp only at hf
    split at hf
    · cases hf
    · rename_i hn
      obtain rfl := Option.some.inj hf
      have hval := Numeral.value_ofNat (mod_lt_fraction n)
      rw [Numeral.value, h0] at hval
      exact hn hval.symm

theorem Canonical.eq_ofCents {a : AmountText} (h : a.Canonical) : ofCents a.total = a := by
  have hcents : (a.cents.map (·.value)).getD 0 < 100 := by
    cases a.cents with
    | none => simp
    | some f => exact f.value_lt
  have hdiv : a.total / 100 = Nat.ofDigitChars 10 (a.whole.filter (· ≠ ',')) 0 := by
    rw [total]
    omega
  have hmod : a.total % 100 = (a.cents.map (·.value)).getD 0 := by
    rw [total]
    omega
  have hwhole : grouped (Nat.toDigits 10 (a.total / 100)) = a.whole := by
    have hfirst : a.first ≠ ',' := fun h => absurd (h ▸ a.first_digit) (by decide)
    have hzero : a.first = '0' → a.more.filter (· ≠ ',') = [] := fun h0 => by
      rw [h.zero h0]
      rfl
    have hdigits : ∀ c ∈ a.first :: a.more.filter (· ≠ ','), Text.isDigit c :=
      a.filter_whole ▸ fun c => isDigit_of_mem_filter
    rw [hdiv, filter_whole, Text.toDigits_ofDigitChars hdigits hzero, ← filter_whole]
    exact grouped_filter h.commas fun h => hfirst (Option.some.inj h)
  apply text_injective
  rw [text_ofCents, centsToChars, hwhole, text, hmod]
  cases hf : a.cents with
  | none => rfl
  | some f =>
    have hne : f.value ≠ 0 := by
      intro h0
      have hchars := f.leftpad_value
      rw [h0] at hchars
      exact h.cents f hf hchars.symm
    simp only [Option.map_some, Option.getD_some, if_neg hne]
    rw [← f.leftpad_value]
    rfl

theorem canonical_iff {a : AmountText} : a.Canonical ↔ ofCents a.total = a :=
  ⟨Canonical.eq_ofCents, fun h => h ▸ canonical_ofCents _⟩

end AmountText
end DatedMoney.Notation
