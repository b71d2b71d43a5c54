import DatedMoney.Proofs.Index.Interpolation
import DatedMoney.Proofs.Method.Rescale

/-!
# Conversions by a regular table

A regular table has a positive value for every year, so there is a rate between any two years. What
becomes of a value is decided by its product with the rate alone (`apply_regular_outcome`).
-/

namespace DatedMoney.Method
open Decimal

/-- The rate between two years of a regular table. -/
theorem regular_rate {a b : ℚ} (ha : 10 ^ (-1000 : Int) ≤ a) (ha' : a < 10 ^ (1000 : Int))
    (hb : 10 ^ (-1000 : Int) ≤ b) (hb' : b < 10 ^ (1000 : Int)) :
    10 ^ (-2000 : Int) ≤ b / a ∧ b / a ≤ 10 ^ (2000 : Int) := by
  have hapos : 0 < a := (ten_zpow_pos _).trans_le ha
  constructor
  · rw [le_div_iff₀ hapos]
    calc (10 : ℚ) ^ (-2000 : Int) * a ≤ 10 ^ (-2000 : Int) * 10 ^ (1000 : Int) :=
          mul_le_mul_of_nonneg_left ha'.le (ten_zpow_pos _).le
      _ = 10 ^ (-1000 : Int) := by rw [← ten_zpow_add]; rfl
      _ ≤ b := hb
  · rw [div_le_iff₀ hapos]
    calc b ≤ 10 ^ (1000 : Int) := hb'.le
      _ = 10 ^ (2000 : Int) * 10 ^ (-1000 : Int) := by rw [← ten_zpow_add]; rfl
      _ ≤ 10 ^ (2000 : Int) * a := mul_le_mul_of_nonneg_left ha (ten_zpow_pos _).le

/-- The values of a regular table for two years, and the rate between them. -/
theorem exists_regular_rate {t : Index.Table} (ht : t.Regular) (y y' : Int) :
    ∃ a b, (t.valueFor y = .ok a ∧ a.isFinite ∧ 0 < a.toRat) ∧
      (t.valueFor y' = .ok b ∧ b.isFinite ∧ 0 < b.toRat) ∧
      (10 ^ (-2000 : Int) ≤ b.toRat / a.toRat ∧ b.toRat / a.toRat ≤ 10 ^ (2000 : Int)) ∧
      |b.toRat / a.toRat| ≤ 10 ^ Context.money.emax := by
  obtain ⟨a, ha, hafinite, halow, hahigh⟩ := ht.valueFor y
  obtain ⟨b, hb, hbfinite, hblow, hbhigh⟩ := ht.valueFor y'
  have hapos : 0 < a.toRat := (ten_zpow_pos _).trans_le halow
  have hbpos : 0 < b.toRat := (ten_zpow_pos _).trans_le hblow
  have hrate := regular_rate halow hahigh hblow hbhigh
  refine ⟨a, b, ⟨ha, hafinite, hapos⟩, ⟨hb, hbfinite, hbpos⟩, hrate, ?_⟩
  rw [abs_of_pos (div_pos hbpos hapos)]
  exact le_emax (by decide) hrate.2

/-- The outcome for a regular table. It has a rate between any two years. -/
theorem apply_regular_outcome {t : Index.Table} (ht : t.Regular) {name : String} (hname : name ≠ "")
    {v : Value} (hv : v.amount.isFinite) (target : Date) :
    ∃ a b, (t.valueFor v.date.year = .ok a ∧ 0 < a.toRat) ∧
      (t.valueFor target.year = .ok b ∧ 0 < b.toRat) ∧
      (10 ^ (-2000 : Int) ≤ b.toRat / a.toRat ∧ b.toRat / a.toRat ≤ 10 ^ (2000 : Int)) ∧
      CarriesTo ⟨name, v.date, hname⟩ v.currency target
        (computed v.amount.toRat (b.toRat / a.toRat)) ((Method.index t name).apply v target) := by
  obtain ⟨a, b, ⟨ha, hafinite, hapos⟩, ⟨hb, hbfinite, hbpos⟩, hrate, hsize⟩ :=
    exists_regular_rate ht v.date.year target.year
  exact ⟨a, b, ⟨ha, hapos⟩, ⟨hb, hbpos⟩, hrate,
    rescale_computed hname hv ha hafinite hb hbfinite hapos.ne' hsize⟩

/-! ## A regular table -/

/-- A table of two entries ten years apart. -/
def decade : Index.Table := .ofPairs "decade" [(2000, 100), (2010, 250)]

theorem regular_decade : decade.Regular := by
  have hentries {P : Int × Decimal → Prop} (h : P (2000, 100)) (h' : P (2010, 250)) :
      ∀ p ∈ decade.entries, P p :=
    List.forall_mem_cons.2 ⟨h, List.forall_mem_singleton.2 h'⟩
  have hnonempty : decade.entries ≠ [] := List.ne_nil_of_length_pos (by decide)
  have hgaps : decade.entries.IsChain fun p q => q.1 < p.1 + 10 ^ 20 :=
    List.isChain_pair.2 (by decide)
  refine ⟨hnonempty, hentries ?_ ?_, hentries ?_ ?_, hentries ?_ ?_, hgaps⟩
  · exact toRat_nonnegative 100 0 ▸ toRat_pos (by decide) 0
  · exact toRat_nonnegative 250 0 ▸ toRat_pos (by decide) 0
  · exact inReach_of_le (by decide) (by decide) (by decide)
  · exact inReach_of_le (by decide) (by decide) (by decide)
  · exact ⟨false, 100, 0, 0, rfl, by decide⟩
  · exact ⟨false, 250, 0, 0, rfl, by decide⟩

end DatedMoney.Method
