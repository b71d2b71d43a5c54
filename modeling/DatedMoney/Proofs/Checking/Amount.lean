import DatedMoney.Checking.Draft
import DatedMoney.Proofs.Decimal.Printed
import DatedMoney.Proofs.Json.Short

/-!
# Amounts as they are given

An amount is read from what its data displays. That comes down to the kind of the data
(`amount_eq_ok_iff`, `amount_eq_error_iff`): texts are read, numbers stand for themselves, and
nothing else is an amount, nor is any data with an integer of too many digits.
-/

namespace DatedMoney

namespace Decimal
open Text

theorem exists_of_mapM_eq_some {f : α → Option β} {xs : List α} {ys : List β}
    (h : xs.mapM f = some ys) : ∀ x ∈ xs, ∃ y, f x = some y := by
  induction xs generalizing ys with
  | nil => exact List.forall_mem_nil _
  | cons x xs ih =>
    rw [List.mapM_cons] at h
    obtain ⟨y, hy, h⟩ := Option.bind_eq_some_iff.1 h
    obtain ⟨ys', hys, -⟩ := Option.bind_eq_some_iff.1 h
    exact List.forall_mem_cons.2 ⟨⟨y, hy⟩, ih hys⟩

theorem dropWhile_append_cons {p : Char → Bool} {c : Char} (hc : ¬p c) (cs cs' : List Char) :
    (cs ++ c :: cs').dropWhile p = cs.dropWhile p ++ c :: cs' := by
  rw [List.dropWhile_append]
  split
  · rename_i hempty
    rw [List.isEmpty_iff.1 hempty, List.dropWhile_cons_of_neg hc, List.nil_append]
  · rfl

/-- A character that is not blank stays, wherever it stands. -/
theorem strip_append_cons {p : Char → Bool} {c : Char} (hc : ¬p c) (cs cs' : List Char) :
    strip p (cs ++ c :: cs') = cs.dropWhile p ++ c :: (cs'.reverse.dropWhile p).reverse := by
  rw [strip, dropWhile_append_cons hc, List.reverse_append, List.reverse_cons, List.append_assoc,
    List.singleton_append, dropWhile_append_cons hc]
  simp

/-- No numeral contains a character outside ASCII that is neither a digit nor blank. -/
theorem ofText?_of_mem {s : String} {c : Char} (hc : c ∈ s.toList) (hblank : ¬isBlank c)
    (hlarge : ¬c.toNat < 128) (hdigit : digitValue? c = none) : ofText? s = none := by
  have hplain : plainChars? s.toList = none := by
    rw [Option.eq_none_iff_forall_ne_some]
    intro cs hcs
    obtain ⟨before, after, h⟩ := List.append_of_mem hc
    have hne : c ≠ '_' := by
      rintro rfl
      exact hlarge (by decide)
    rw [plainChars?, h, strip_append_cons hblank] at hcs
    obtain ⟨d, hd⟩ := exists_of_mapM_eq_some hcs c (by simp [hne])
    rw [if_neg hlarge, hdigit] at hd
    cases hd
  rw [ofText?, hplain]
  rfl

/-- What begins with a bracket is neither a word nor a row of digits. -/
theorem unsigned?_bracket {c : Char} (hc : c = '[' ∨ c = '\x7b') (cs : List Char) :
    unsigned? false (c :: cs) = none := by
  have hnumber : number? false (c :: cs) = none := by
    rcases hc with rfl | rfl <;> simp [number?, isDigit]
  rcases hc with rfl | rfl
  · exact hnumber
  · exact hnumber

/-- No numeral begins with a bracket. -/
theorem ofText?_bracket {c : Char} (hc : c = '[' ∨ c = '\x7b') (cs : List Char) :
    ofText? (.ofList (c :: cs)) = none := by
  have hblank : ¬isBlank c := by rcases hc with rfl | rfl <;> decide
  have hkept : decide (c ≠ '_') = true := by rcases hc with rfl | rfl <;> rfl
  have hplain : (if c.toNat < 128 then some c else (digitValue? c).map Nat.digitChar) = some c := by
    rcases hc with rfl | rfl <;> rfl
  have hstrip := strip_append_cons hblank [] cs
  rw [List.nil_append, List.dropWhile_nil, List.nil_append] at hstrip
  rw [Option.eq_none_iff_forall_ne_some]
  intro a ha
  obtain ⟨ds, hds, ha⟩ := Option.bind_eq_some_iff.1 ha
  rw [String.toList_ofList, plainChars?, hstrip,
    List.filter_cons_of_pos (p := fun x => decide (x ≠ '_')) hkept, List.mapM_cons, hplain] at hds
  obtain ⟨_, hfirst, hds⟩ := Option.bind_eq_some_iff.1 hds
  obtain ⟨ds', -, hds⟩ := Option.bind_eq_some_iff.1 hds
  cases hfirst
  cases hds
  rcases hc with rfl | rfl
  · cases ha.symm.trans (unsigned?_bracket (.inl rfl) ds')
  · cases ha.symm.trans (unsigned?_bracket (.inr rfl) ds')

theorem ofInt_text (n : Int) :
    Text.ofInt n = .ofList (signChars (n < 0) ++ Nat.toDigits 10 n.natAbs) := by
  rw [Text.ofInt, Text.intPadded]
  by_cases hn : n < 0
  · simp [hn, signChars, List.leftpad]
  · simp [hn, signChars, List.leftpad]

/-- A short integer is read as it stands. -/
theorem ofText?_ofInt {n : Int} (h : isShort n) : ofText? (Text.ofInt n) = some (.ofInt n) := by
  let digits : NumberText :=
    ⟨Nat.toDigits 10 n.natAbs, none, none, by simp, fun _ => isDigit_of_mem_toDigits, by simp⟩
  have hcount : digitCount n.natAbs ≤ maxDigits := digitCount_le (by decide) (isShort_iff.1 h)
  have htext : digits.text = Nat.toDigits 10 n.natAbs := List.append_nil _
  have hcoefficient : digits.coefficient = n.natAbs := by
    rw [NumberText.coefficient]
    exact (congrArg (Nat.ofDigitChars 10 · 0) (List.append_nil _)).trans
      Nat.ofDigitChars_ten_toDigits
  have hread := ofText?_numberText (n < 0) digits
  have hlast : digits.lastExponent = 0 := rfl
  rw [htext, hcoefficient, hlast] at hread
  rw [ofInt_text, hread]
  refine if_pos ?_
  rw [Bool.and_eq_true, decide_eq_true_eq, decide_eq_true_eq, minExponent, maxExponent]
  rw [maxDigits] at hcount
  omega

end Decimal

namespace Checking

/-- The number that data stands for: the one that a text is read as, an integer itself, and that of
the shortest digits of a binary number. -/
def numberOf? : Json → Option Decimal
  | .string s => Decimal.ofText? s
  | .int n => some (.ofInt n)
  | .float .nan => some (.nan false false 0)
  | .float (.infinite s) => some (.infinite s)
  | .float x => Decimal.ofText? (.ofList x.toChars)
  | _ => none

theorem ofText?_display {given : Json} {s : String} (h : given.display? = some s) :
    Decimal.ofText? s = numberOf? given := by
  have hinner (h : (String.ofList <$> given.displayInner) = some s) :
      ∃ cs, given.displayInner = some cs ∧ .ofList cs = s := Option.map_eq_some_iff.1 h
  cases given with
  | string t =>
    cases h
    rfl
  | halved codes half =>
    cases h
    obtain ⟨code, hcode, hhalf⟩ := List.any_eq_true.1 half
    have hmem : '\ufffd' ∈ codes.map JsonText.charOf :=
      List.mem_map.2 ⟨code, hcode, if_pos hhalf⟩
    exact Decimal.ofText?_of_mem (by rwa [JsonText.nearest, String.toList_ofList]) (by decide)
      (by decide) (by decide)
  | null =>
    cases h
    rfl
  | bool b =>
    cases h
    cases b <;> rfl
  | int n =>
    rw [Json.display?_int] at h
    split at h
    · rename_i hn
      cases h
      exact Decimal.ofText?_ofInt hn
    · cases h
  | float x =>
    cases h
    cases x with
    | nan => rfl
    | infinite s => cases s <;> rfl
    | finite s m e => rfl
  | array xs =>
    obtain ⟨cs, hcs, rfl⟩ := hinner h
    rw [Json.displayInner] at hcs
    obtain ⟨items, -, hcs⟩ := Option.bind_eq_some_iff.1 hcs
    cases hcs
    exact Decimal.ofText?_bracket (.inl rfl) items
  | object members =>
    obtain ⟨cs, hcs, rfl⟩ := hinner h
    rw [Json.displayInner] at hcs
    obtain ⟨items, -, hcs⟩ := Option.bind_eq_some_iff.1 hcs
    cases hcs
    exact Decimal.ofText?_bracket (.inr rfl) items

theorem amount_eq_ok_iff {given : Json} {a : Decimal} :
    amount given = .ok a ↔ given.isShort ∧ numberOf? given = some a := by
  rw [amount, ← given.isSome_display?_iff]
  cases h : given.display? with
  | none => simp
  | some s =>
    rw [← ofText?_display h]
    cases hs : Decimal.ofText? s <;> simp [hs]

theorem amount_eq_error_iff {given : Json} {e : Error} : amount given = .error e ↔
    ¬given.isShort ∧ e = .tooManyDigits ∨
      given.isShort ∧ numberOf? given = none ∧ e = .signal .invalidOperation := by
  rw [amount, ← given.isSome_display?_iff]
  cases h : given.display? with
  | none => simp [eq_comm]
  | some s =>
    rw [← ofText?_display h]
    cases hs : Decimal.ofText? s <;> simp [hs, eq_comm]

end Checking
end DatedMoney
