import DatedMoney.Text.DecimalDigit
import Mathlib.Data.List.Forall2
import Mathlib.Data.List.Induction
import Mathlib.Data.Nat.Digits.Defs

/-!
# Digits of all scripts

The decimal digits of the scripts do not overlap, so that each has one value
(`digitValue?_eq_some_iff`), and a digit that stands alone has none (`digitValue?_of_lone`). A row of
characters is read as the number that it denotes as a numeral, and as nothing if it is no numeral
(`digitsValue?_eq_some_iff`).
-/

namespace DatedMoney.Text

/-- A character among the ten of a script, and its place there. -/
def DecimalDigit (c : Char) (d : Nat) : Prop := d < 10 ∧ ∃ z ∈ digitZeros, c.toNat = z + d

/-- A row of decimal digits, of any scripts, and the number that they denote. The last digit counts
least. -/
def Numeral (cs : List Char) (n : Nat) : Prop :=
  cs ≠ [] ∧ ∃ ds, List.Forall₂ DecimalDigit cs.reverse ds ∧ n = Nat.ofDigits 10 ds

/-! ## Single digits -/

theorem digitZeros_apart : ∀ z ∈ digitZeros, ∀ z' ∈ digitZeros,
    z = z' ∨ z + 10 ≤ z' ∨ z' + 10 ≤ z := by
  decide +kernel

theorem loneDigits_apart : ∀ z ∈ digitZeros, ∀ range ∈ loneDigits,
    range.2 < z ∨ z + 10 ≤ range.1 := by
  decide +kernel

theorem digitValue?_eq_some_iff {c : Char} {d : Nat} :
    digitValue? c = some d ↔ DecimalDigit c d := by
  rw [digitValue?, Option.map_eq_some_iff]
  constructor
  · rintro ⟨z, hz, rfl⟩
    have hrange := List.find?_some hz
    rw [Bool.and_eq_true, decide_eq_true_eq, decide_eq_true_eq] at hrange
    exact ⟨by omega, z, List.mem_of_find?_eq_some hz, by omega⟩
  · rintro ⟨hd, z, hz, hc⟩
    obtain ⟨z', hz'⟩ : ∃ z', digitZeros.find? (fun z => z ≤ c.toNat && c.toNat < z + 10) =
        some z' := by
      refine Option.isSome_iff_exists.1 (List.find?_isSome.2 ⟨z, hz, ?_⟩)
      rw [Bool.and_eq_true, decide_eq_true_eq, decide_eq_true_eq]
      omega
    have hrange := List.find?_some hz'
    rw [Bool.and_eq_true, decide_eq_true_eq, decide_eq_true_eq] at hrange
    have hsame := digitZeros_apart z hz z' (List.mem_of_find?_eq_some hz')
    exact ⟨z', hz', by omega⟩

theorem digitValue?_of_lone {c : Char} (h : loneDigits.contains c) : digitValue? c = none := by
  rw [CodeRanges.contains, List.any_eq_true] at h
  obtain ⟨range, hrange, hc⟩ := h
  rw [Bool.and_eq_true, decide_eq_true_eq, decide_eq_true_eq] at hc
  rw [digitValue?, Option.map_eq_none_iff, List.find?_eq_none]
  intro z hz hdigit
  rw [Bool.and_eq_true, decide_eq_true_eq, decide_eq_true_eq] at hdigit
  have hapart := loneDigits_apart z hz range hrange
  omega

/-- What counts as a digit has a value or stands alone, and never both. -/
theorem digitValue?_eq_none_iff {c : Char} (h : isAnyDigit c) :
    digitValue? c = none ↔ loneDigits.contains c := by
  rw [isAnyDigit, Bool.or_eq_true] at h
  constructor
  · intro hnone
    exact h.resolve_left (by rw [hnone]; exact Bool.false_ne_true)
  · exact digitValue?_of_lone

/-! ## Rows of digits -/

theorem digitsValue?_concat (cs : List Char) (c : Char) :
    digitsValue? (cs ++ [c]) = do return 10 * (← digitsValue? cs) + (← digitValue? c) := by
  rw [digitsValue?, List.foldl_append]
  rfl

theorem digitsValue?_eq_some_iff {cs : List Char} {n : Nat} :
    digitsValue? cs = some n ↔
      ∃ ds, List.Forall₂ DecimalDigit cs.reverse ds ∧ n = Nat.ofDigits 10 ds := by
  induction cs using List.reverseRecOn generalizing n with
  | nil => simp [digitsValue?, eq_comm]
  | append_singleton cs c ih =>
    rw [digitsValue?_concat, List.reverse_append, List.reverse_singleton, List.singleton_append]
    simp only [Option.bind_eq_bind, Option.bind_eq_some_iff, ih, digitValue?_eq_some_iff,
      Option.pure_def, Option.some.injEq, List.forall₂_cons_left_iff]
    constructor
    · rintro ⟨m, ⟨ds, hds, rfl⟩, d, hd, rfl⟩
      exact ⟨d :: ds, ⟨d, ds, hd, hds, rfl⟩, Nat.add_comm ..⟩
    · rintro ⟨_, ⟨d, ds, hd, hds, rfl⟩, rfl⟩
      exact ⟨_, ⟨ds, hds, rfl⟩, d, hd, Nat.add_comm ..⟩

theorem numeral_iff {cs : List Char} {n : Nat} (h : cs ≠ []) :
    Numeral cs n ↔ digitsValue? cs = some n := by
  rw [Numeral, and_iff_right h, digitsValue?_eq_some_iff]

theorem isSome_digitsValue?_iff {cs : List Char} :
    (digitsValue? cs).isSome ↔ ∀ c ∈ cs, (digitValue? c).isSome := by
  induction cs using List.reverseRecOn with
  | nil => exact iff_of_true rfl (List.forall_mem_nil _)
  | append_singleton cs c ih =>
    rw [List.forall_mem_append, List.forall_mem_singleton, ← ih, digitsValue?_concat]
    cases digitsValue? cs <;> cases digitValue? c <;> simp

theorem exists_numeral_iff {cs : List Char} (h : cs ≠ []) :
    (∃ n, Numeral cs n) ↔ ∀ c ∈ cs, (digitValue? c).isSome := by
  rw [← isSome_digitsValue?_iff, Option.isSome_iff_exists]
  exact exists_congr fun _ => numeral_iff h

end DatedMoney.Text
