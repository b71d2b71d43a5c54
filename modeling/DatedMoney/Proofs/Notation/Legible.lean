import DatedMoney.Proofs.Notation.NormalForm
import DatedMoney.Proofs.Notation.RoundTrip

/-!
# Values that are read as they were written

What is read from a text is legible (`legible_of_scan`), and a legible value with a writable amount
is read again from its notation without any loss (`Legible.reads_back`).
-/

namespace DatedMoney.Notation
open Decimal

/-- The values whose notation denotes an equal value. -/
structure Legible (v : Value) : Prop extends Readable v where
  finite : v.amount.isFinite
  cents : ∃ k : ℤ, v.amount.toRat * 100 = k
  currency : v.currency ≠ .cny

/-- The amounts that can be written, if they are not negative: whole ones, and others with at most
26 digits before the point. -/
def Printable (a : Decimal) : Prop := (∃ n : ℤ, a.toRat = n) ∨ a.toRat < 10 ^ 26

theorem Sentence.legible (s : Sentence) : Legible s.value where
  toReadable := exists_text_iff.1 ⟨s.normal, s.normal_text⟩
  finite := s.amount.isFinite_value
  cents := by
    have h : s.value.amount.toRat = s.amount.total / 100 := s.amount.toRat_value
    exact ⟨s.amount.total, by rw [h, div_mul_cancel₀ _ (by norm_num), Int.cast_natCast]⟩
  currency := s.currency.readBack_eq_iff.1 (Currency.readBack_of_mem s.readable)

theorem legible_of_scan {text : String} {v : Value} (h : scan text = .ok v) : Legible v := by
  obtain ⟨s, -, rfl⟩ := scan_eq_ok_iff.1 h
  exact s.legible

namespace Legible
variable {v : Value} (h : Legible v)
include h

theorem rounded_eq : v.amount.rounded = v.amount.toRat := rounded_eq_iff.2 h.cents

theorem nonneg : 0 ≤ v.amount.toRat := h.rounded_eq ▸ h.amount

theorem writable_iff : Writable v.amount ↔ Printable v.amount := by
  rw [Notation.writable_iff h.finite, h.rounded_eq, abs_of_nonneg h.nonneg, Printable]

/-- The notation of a legible value is that of a sentence with a canonical amount, which denotes an
equal value and is written as it stands. -/
theorem exists_sentence : ∃ s : Sentence, s.text = written v ∧ s.amount.Canonical ∧
    Value.equal false s.value v = .ok true := by
  obtain ⟨s, hs⟩ := exists_text_iff.2 h.toReadable
  obtain ⟨hc, ⟨hn, ha⟩, hd, ho⟩ := Sentence.text_eq_iff.1 hs
  have htotal : (s.amount.total : ℤ) = v.amount.nearestCents := by
    rw [ha, AmountText.total_ofCents, Int.natAbs_of_nonneg hn]
  have hamount : s.value.amount.toRat = v.amount.toRat := by
    have hrat : s.value.amount.toRat = s.amount.total / 100 := s.amount.toRat_value
    rw [hrat, ← h.rounded_eq, rounded, ← htotal, Int.cast_natCast]
  have hcurrency : s.currency = v.currency := hc.trans (v.currency.readBack_eq_iff.2 h.currency)
  refine ⟨s, hs, ha ▸ AmountText.canonical_ofCents _, ?_⟩
  exact (Value.equal_finite s.amount.isFinite_value h.finite).2 ⟨hamount, hcurrency, hd, ho⟩

/-- A legible value that can be written is read again from its notation. -/
theorem reads_back (hw : Writable v.amount) : ∃ t u, write v = .ok t ∧ scan t = .ok u ∧
    u.amount.isFinite ∧ Value.equal false u v = .ok true := by
  obtain ⟨s, hs, -, hequal⟩ := h.exists_sentence
  refine ⟨.ofList (written v), s.value, by rw [write_short h.finite h.shortYears, if_pos hw], ?_,
    s.amount.isFinite_value, hequal⟩
  exact scan_eq_ok_iff.2 ⟨s, hs.trans String.toList_ofList.symm, rfl⟩

end Legible

/-- What is written for a value can be read if there is a place for the value in the grammar. -/
theorem accepts_written_iff {v : Value} :
    accepts (.string (.ofList (written v))) ↔ Readable v := by
  rw [accepts_iff_derivable, String.toList_ofList, exists_text_iff]

/-- Equal values have the same notation. -/
theorem write_congr {v w : Value} (hv : v.amount.isFinite) (hw : w.amount.isFinite)
    (h : Value.equal false v w = .ok true) : write v = write w := by
  obtain ⟨hamount, hcurrency, hdate, hprovenance⟩ := (Value.equal_finite hv hw).1 h
  have hcents : v.amount.nearestCents = w.amount.nearestCents := by
    rw [nearestCents, hamount, nearestCents]
  have hwhole : v.amount.isWhole = w.amount.isWhole := by
    rw [Bool.eq_iff_iff, isWhole_iff hv, isWhole_iff hw, hamount]
  have hwritable : Writable v.amount ↔ Writable w.amount := by
    rw [Writable, Writable, hcents, hwhole]
  have hyears : ShortYears v ↔ ShortYears w := by
    rw [ShortYears, ShortYears, hdate, hprovenance]
  have hwritten : written v = written w := by
    rw [written, written, hcents, hcurrency, hdate, hprovenance]
  simp only [write_finite hv, write_finite hw, hwritable, hyears, hwritten]

end DatedMoney.Notation
