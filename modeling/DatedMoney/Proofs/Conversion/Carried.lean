import DatedMoney.Proofs.Method.Congruence
import DatedMoney.Proofs.Registry

/-!
# Values carried over by a reference method

The reference methods treat equal values alike (`transform_congr`). What they make of a value can
always be written (`writable_of_transform`), and read again if its year has four digits
(`legible_of_transform`).
-/

namespace DatedMoney

/-- What the value for one year is to that for another; zero if there are no values. -/
def Index.Table.ratio (t : Table) (y y' : Int) : ℚ :=
  match t.valueFor y, t.valueFor y' with
  | .ok a, .ok b => b.toRat / a.toRat
  | _, _ => 0

/-- The names of the tables are methods of the grammar. -/
theorem Index.exists_methodText {t : Table} (ht : t ∈ [cpi, wage, gold]) :
    ∃ m : Notation.MethodText, m.string = t.name := by
  have hname : t.name ∈ ["CPI", "WAGE", "GOLD"] := List.mem_map_of_mem ht
  have hupper : ∀ s ∈ ["CPI", "WAGE", "GOLD"], s.toList ≠ [] ∧ s.toList.all Notation.isUpper := by
    decide
  obtain ⟨hne, hall⟩ := hupper t.name hname
  refine ⟨⟨t.name.toList, none, hne, List.all_eq_true.1 hall, nofun, nofun⟩, ?_⟩
  rw [Notation.MethodText.string, Notation.MethodText.text, Notation.partAfter, List.append_nil,
    String.ofList_toList]

namespace Registry
open Decimal Notation

variable {v w : Value} {name : String} {target : Date}

theorem transform_outcome (hv : v.amount.isFinite) {t : Index.Table}
    (ht : t ∈ [Index.cpi, Index.wage, Index.gold]) (target : Date) :
    0 < t.ratio v.date.year target.year ∧
      Method.CarriesTo ⟨t.name, v.date, Index.name_ne ht⟩ v.currency target
        (Method.computed v.amount.toRat (t.ratio v.date.year target.year))
        (reference.transform v t.name target) := by
  obtain ⟨a, b, ha, hb, ⟨hlow, -⟩, houtcome⟩ := Method.apply_reference_outcome ht hv target
  have hratio : t.ratio v.date.year target.year = b.toRat / a.toRat := by
    simp only [Index.Table.ratio, ha, hb]
  rw [hratio, transform_reference ht]
  exact ⟨(ten_zpow_pos _).trans_le hlow, houtcome⟩

/-- Equal values are carried over to equal values, or neither is carried over. -/
theorem transform_congr (hv : v.amount.isFinite) (hw : w.amount.isFinite)
    (hequal : Value.equal false v w = .ok true) (hname : name ∈ reference.names) (target : Date) :
    (∃ e, reference.transform v name target = .error e ∧
        reference.transform w name target = .error e) ∨
      ∃ v' w', reference.transform v name target = .ok v' ∧
        reference.transform w name target = .ok w' ∧ v'.amount.isFinite ∧ w'.amount.isFinite ∧
        Value.equal false v' w' = .ok true := by
  obtain ⟨t, ht, rfl⟩ := mem_names_reference.1 hname
  have hresults := (Value.sameMoney_of_equal hv hw hequal).apply_alike t t.name target
  rw [transform_reference ht, transform_reference ht]
  refine hresults.error_or_ok.imp_right ?_
  rintro ⟨v', w', hv', hw', hshown⟩
  obtain ⟨n, hn, -⟩ := Method.apply_isCents hv'
  obtain ⟨n', hn', -⟩ := Method.apply_isCents hw'
  exact ⟨v', w', hv', hw', hn.isFinite, hn'.isFinite, hshown.equal⟩

section
variable (hname : name ∈ reference.names)
include hname

/-- The result is a number of cents with no more digits than the context keeps. -/
theorem amount_of_transform (hv : v.amount.isFinite)
    (h : reference.transform v name target = .ok w) :
    ∃ n : ℤ, w.amount.IsCents n ∧ n.natAbs < 10 ^ 28 := by
  obtain ⟨t, ht, rfl⟩ := mem_names_reference.1 hname
  have houtcome := (transform_outcome hv ht target).2
  rw [h] at houtcome
  obtain ⟨hlt, a, rfl, ha⟩ := houtcome.of_ok
  exact ⟨_, ha, hlt⟩

theorem isFinite_of_transform (hv : v.amount.isFinite)
    (h : reference.transform v name target = .ok w) : w.amount.isFinite := by
  obtain ⟨n, hn, -⟩ := amount_of_transform hname hv h
  exact hn.isFinite

theorem writable_of_transform (hv : v.amount.isFinite)
    (h : reference.transform v name target = .ok w) : Writable w.amount := by
  obtain ⟨n, hn, hlt⟩ := amount_of_transform hname hv h
  exact .inr (hn.nearestCents_eq ▸ hlt)

/-- The result says where it comes from. -/
theorem provenance_of_transform (hv : v.amount.isFinite)
    (h : reference.transform v name target = .ok w) :
    w.currency = v.currency ∧ w.date = target ∧
      ∃ p, w.provenance = some p ∧ p.method = name ∧ p.source = v.date := by
  obtain ⟨t, ht, rfl⟩ := mem_names_reference.1 hname
  have houtcome := (transform_outcome hv ht target).2
  rw [h] at houtcome
  obtain ⟨-, a, rfl, -⟩ := houtcome.of_ok
  exact ⟨rfl, rfl, _, rfl, rfl, rfl⟩

/-- The result can be written if and only if the target year can. -/
theorem write_of_transform (hv : v.amount.isFinite) (hyear : Text.isShort v.date.year)
    (h : reference.transform v name target = .ok w) : write w =
      if Text.isShort target.year then .ok (.ofList (written w)) else .error .tooManyDigits := by
  obtain ⟨-, hdate, p, hp, -, hsource⟩ := provenance_of_transform hname hv h
  have hyears : ShortYears w ↔ Text.isShort target.year := by
    rw [ShortYears, hdate, hp]
    refine and_iff_left ?_
    rintro _ ⟨⟩
    rwa [hsource]
  rw [write_finite (isFinite_of_transform hname hv h), if_pos (writable_of_transform hname hv h)]
  simp only [hyears]

theorem legible_of_transform (hv : Legible v) (hyear : 0 ≤ target.year ∧ target.year ≤ 9999)
    (h : reference.transform v name target = .ok w) : Legible w := by
  obtain ⟨t, ht, rfl⟩ := mem_names_reference.1 hname
  obtain ⟨hratio, houtcome⟩ := transform_outcome hv.finite ht target
  rw [h] at houtcome
  obtain ⟨-, a, rfl, ha⟩ := houtcome.of_ok
  have hcents : 0 ≤ Tie.away.nearest
      (Method.computed v.amount.toRat (t.ratio v.date.year target.year) * 100) := by
    refine Tie.nearest_nonneg (mul_nonneg (Context.nearest_nonneg ?_) (by norm_num))
    exact mul_nonneg hv.nonneg (Context.nearest_nonneg hratio.le)
  refine ⟨⟨?_, hyear, ?_, ?_⟩, ha.isFinite, ⟨_, ha.toRat_mul⟩, hv.currency⟩
  · rw [rounded_nonneg_iff, ha.nearestCents_eq]
    exact hcents
  · rintro p ⟨⟩
    exact Index.exists_methodText ht
  · rintro p ⟨⟩
    exact hv.year

end

end Registry
end DatedMoney
