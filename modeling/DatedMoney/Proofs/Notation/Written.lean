import DatedMoney.Proofs.Notation.Acceptance
import DatedMoney.Proofs.Notation.Amount

/-!
# Values as they are written

`write` succeeds on the values with a writable amount and short years (`write_finite`), and what it
writes for a value is the text of one sentence at most, which is determined by the value
(`Sentence.text_eq_iff`).
-/

namespace DatedMoney

/-- The currency that is read from the symbol of another. -/
def Currency.readBack (c : Currency) : Currency := if c = .cny then .jpy else c

theorem Currency.readBack_mem (c : Currency) : c.readBack ∈ readable := by cases c <;> decide

theorem Currency.symbol_readBack (c : Currency) : c.readBack.symbol = c.symbol := by
  cases c <;> decide

theorem Currency.readBack_eq_iff (c : Currency) : c.readBack = c ↔ c ≠ .cny := by cases c <;> decide

theorem Currency.readBack_of_mem {c : Currency} (h : c ∈ readable) : c.readBack = c := by
  refine c.readBack_eq_iff.2 ?_
  rintro rfl
  exact absurd h (by decide)

namespace Notation
open Decimal

/-- The years of a value have few enough digits to be written. -/
def ShortYears (v : Value) : Prop :=
  Text.isShort v.date.year ∧ ∀ p ∈ v.provenance, Text.isShort p.source.year

instance (v : Value) : Decidable (ShortYears v) :=
  match h : v.provenance with
  | none => decidable_of_iff (Text.isShort v.date.year) (by simp [ShortYears, h])
  | some p => decidable_of_iff (Text.isShort v.date.year ∧ Text.isShort p.source.year)
      (by simp [ShortYears, h])

/-- The brackets after a date. -/
def writtenProvenance (p? : Option Provenance) : List Char :=
  partAfter '[' (p?.map fun p => p.method.toList ++ ':' :: p.source.toChars ++ [']'])

/-- What is written for a value with a writable amount and short years. -/
def written (v : Value) : List Char :=
  v.currency.symbol.toList ++
      (signChars (v.amount.nearestCents < 0) ++ centsToChars v.amount.nearestCents.natAbs) ++
    '@' :: v.date.toChars ++ writtenProvenance v.provenance

theorem isShort_of_four_digits {n : Int} (h : 0 ≤ n) (h' : n ≤ 9999) : Text.isShort n :=
  Text.isShort_of_natAbs_le (n := 9999) (by omega) (by decide)

/-- Of the numbers of a date only the year can be too long. -/
theorem dateToChars_eq (d : Date) : dateToChars d =
    if Text.isShort d.year then .ok d.toChars else .error .tooManyDigits := by
  have hmonth (m : Month) : Text.isShort m.val :=
    isShort_of_four_digits (by have := m.low_le; omega) (by have := m.le_high; omega)
  have hday (d : Day) : Text.isShort d.val :=
    isShort_of_four_digits (by have := d.low_le; omega) (by have := d.le_high; omega)
  rw [dateToChars, partsToChars]
  cases d <;> simp [Date.year, Date.month?, Date.day?, Date.toChars, hmonth, hday] <;> rfl

theorem provenanceToChars_eq (p? : Option Provenance) : provenanceToChars p? =
    if ∀ p ∈ p?, Text.isShort p.source.year then .ok (writtenProvenance p?)
    else .error .tooManyDigits := by
  cases p? with
  | none => rfl
  | some p =>
    rw [provenanceToChars, dateToChars_eq]
    by_cases h : Text.isShort p.source.year
    · simp [h, writtenProvenance, partAfter]
    · simp [h]

theorem write_finite {v : Value} (h : v.amount.isFinite) : write v =
    if Writable v.amount then
      if ShortYears v then .ok (.ofList (written v)) else .error .tooManyDigits
    else .error (.signal .invalidOperation) := by
  rw [write, toChars, amountToChars_finite h, dateToChars_eq, provenanceToChars_eq]
  by_cases hw : Writable v.amount
  · rw [if_pos hw, if_pos hw]
    by_cases hyear : Text.isShort v.date.year
    · by_cases hsource : ∀ p ∈ v.provenance, Text.isShort p.source.year
      · have hshort : ShortYears v := ⟨hyear, hsource⟩
        rw [if_pos hyear, if_pos hsource, if_pos hshort]
        rfl
      · have hshort : ¬ShortYears v := fun h => hsource h.2
        rw [if_pos hyear, if_neg hsource, if_neg hshort]
        rfl
    · have hshort : ¬ShortYears v := fun h => hyear h.1
      rw [if_neg hyear, if_neg hshort]
      rfl
  · rw [if_neg hw, if_neg hw]
    rfl

/-- Where the years are short, only the amount counts. -/
theorem write_short {v : Value} (h : v.amount.isFinite) (hyears : ShortYears v) : write v =
    if Writable v.amount then .ok (.ofList (written v)) else .error (.signal .invalidOperation) := by
  rw [write_finite h, if_pos hyears]

/-! ## Which sentences are written -/

namespace Sentence

/-- The source of a sentence is written as it was read. -/
theorem writtenProvenance_originValue (o : Option (MethodText × DateText)) :
    writtenProvenance (originValue o) = originText o := by
  cases o with
  | none => rfl
  | some o =>
    obtain ⟨m, d⟩ := o
    rw [originValue, Option.map_some, writtenProvenance, Option.map_some, d.toChars_value]
    simp [originText, partAfter, MethodText.string]

theorem originText_eq_iff {o : Option (MethodText × DateText)} {p : Option Provenance} :
    originText o = writtenProvenance p ↔ originValue o = p := by
  constructor
  · intro h
    cases o with
    | none =>
      cases p with
      | none => rfl
      | some p => cases h
    | some o =>
      cases p with
      | none => cases h
      | some p =>
        obtain ⟨m, d⟩ := o
        rw [writtenProvenance] at h
        have hcolon : ':' ∉ d.text := DateText.notMem_text (by decide) (by decide)
        have hcolon' : ':' ∉ p.source.toChars := notMem_toChars (by decide) (by decide)
        have h := List.append_cancel_right (List.tail_eq_of_cons_eq h)
        obtain ⟨hm, hd⟩ := append_cons_inj_last hcolon hcolon' h
        obtain ⟨method, source, hne⟩ := p
        obtain rfl : m.string = method := by
          rw [← String.toList_inj, ← hm, MethodText.string, String.toList_ofList]
        obtain rfl := DateText.text_eq_toChars_iff.1 hd
        rfl
  · rintro rfl
    exact (writtenProvenance_originValue o).symm

theorem originText_injective : Function.Injective originText := by
  intro o o' h
  have hempty : '[' ∉ ([] : List Char) := List.not_mem_nil
  obtain ⟨-, h⟩ := append_partAfter_inj hempty hempty h
  exact Option.map_injective bracket_injective h

theorem originValue_injective : Function.Injective originValue := by
  intro o o' h
  apply originText_injective
  rw [originText_eq_iff.2 h, writtenProvenance_originValue]

/-- The amount of a sentence has no sign. -/
theorem amountText_eq_iff {a : AmountText} {k : Int} :
    a.text = signChars (k < 0) ++ centsToChars k.natAbs ↔ 0 ≤ k ∧ a = .ofCents k.natAbs := by
  constructor
  · intro h
    by_cases hk : k < 0
    · rw [decide_eq_true hk] at h
      obtain ⟨hfirst, -⟩ := List.cons.inj h
      exact absurd (hfirst ▸ a.first_digit) (by decide)
    · rw [decide_eq_false hk, ← AmountText.text_ofCents] at h
      exact ⟨Int.not_lt.1 hk, AmountText.text_injective h⟩
  · rintro ⟨hk, rfl⟩
    rw [decide_eq_false (Int.not_lt.2 hk), AmountText.text_ofCents]
    rfl

theorem at_notMem_written (v : Value) : '@' ∉ v.currency.symbol.toList ++
    (signChars (v.amount.nearestCents < 0) ++ centsToChars v.amount.nearestCents.natAbs) := by
  intro h
  rcases List.mem_append.1 h with h | h
  · revert h
    cases v.currency <;> decide
  rcases List.mem_append.1 h with h | h
  · rw [signChars] at h
    split at h <;> simp at h
  · rw [← AmountText.text_ofCents] at h
    rcases AmountText.mem_text h with h | h
    · exact absurd h (by decide)
    · exact absurd h (by decide)

/-- The sentence that is written for a value. -/
theorem text_eq_iff {s : Sentence} {v : Value} : s.text = written v ↔
    s.currency = v.currency.readBack ∧
      (0 ≤ v.amount.nearestCents ∧ s.amount = .ofCents v.amount.nearestCents.natAbs) ∧
      s.date.value = v.date ∧ originValue s.origin = v.provenance := by
  rw [← amountText_eq_iff, ← DateText.text_eq_toChars_iff, ← originText_eq_iff, text, written]
  constructor
  · intro h
    rw [List.append_assoc, List.append_assoc _ (_ :: _), List.cons_append, List.cons_append] at h
    obtain ⟨ha, h⟩ := append_cons_inj s.at_notMem (at_notMem_written v) h
    rw [← v.currency.symbol_readBack] at ha
    obtain ⟨hc, ha⟩ := symbol_append_inj s.readable v.currency.readBack_mem ha
    have hbracket : '[' ∉ s.date.text := DateText.notMem_text (by decide) (by decide)
    have hbracket' : '[' ∉ v.date.toChars := notMem_toChars (by decide) (by decide)
    rw [originText, writtenProvenance] at h
    obtain ⟨hd, ho⟩ := append_partAfter_inj hbracket hbracket' h
    exact ⟨hc, ha, hd, by rw [originText, ho, writtenProvenance]⟩
  · rintro ⟨hc, ha, hd, ho⟩
    rw [hc, ha, hd, ho, Currency.symbol_readBack]

end Sentence
end Notation
end DatedMoney
