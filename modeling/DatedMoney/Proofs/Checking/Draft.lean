import DatedMoney.Checking.Draft
import DatedMoney.Proofs.Outcome

/-!
# Checked values

A check of several fields succeeds exactly if that of each field does (`value_eq_ok_iff`), and the
amount it leaves is finite (`Draft.isFinite_of_check`).
-/

namespace DatedMoney.Checking

namespace Checked

theorem field_eq_ok_iff {path : List String} {r : Except Complaint α} {a : α} :
    field path r = .ok a ↔ r = .ok a :=
  Except.mapError_eq_ok_iff

theorem both_eq_ok_iff {x : Checked α} {y : Checked β} {p : α × β} :
    both x y = .ok p ↔ x = .ok p.1 ∧ y = .ok p.2 := by
  obtain ⟨a, b⟩ := p
  cases x <;> cases y <;> simp [both]

end Checked

theorem finite_eq_ok_iff {a b : Decimal} : finite a = .ok b ↔ a.isFinite ∧ b = a := by
  rw [finite]
  split
  · rename_i h
    rw [Except.ok.injEq, and_iff_right h, eq_comm]
  · rename_i h
    exact iff_of_false nofun fun h' => h h'.1

theorem valueOf_eq_ok_iff {amount : Except Complaint Decimal} {cur : Json} {date : LooseDate}
    {p : Option Provenance} {v : Value} :
    valueOf amount cur date p = .ok v ↔ amount = .ok v.amount ∧ currency cur = .ok v.currency ∧
      (∃ parts, date.parts "" = .ok parts ∧ parts.date [] "" = .ok v.date) ∧ v.provenance = p := by
  rw [valueOf, Except.mapError_eq_ok_iff, Except.bind_eq_ok_iff]
  constructor
  · rintro ⟨⟨⟨b, c⟩, parts⟩, hfields, h⟩
    obtain ⟨hfields, hdate⟩ := Checked.both_eq_ok_iff.1 hfields
    obtain ⟨hamount, hcurrency⟩ := Checked.both_eq_ok_iff.1 hfields
    obtain ⟨x, hx, h⟩ := Except.bind_eq_ok_iff.1 h
    cases h
    exact ⟨Checked.field_eq_ok_iff.1 hamount, Checked.field_eq_ok_iff.1 hcurrency,
      ⟨parts, hdate, hx⟩, rfl⟩
  · obtain ⟨b, c, x, p'⟩ := v
    rintro ⟨hamount, hcurrency, ⟨parts, hdate, hx⟩, rfl⟩
    refine ⟨((b, c), parts), ?_, ?_⟩
    · exact Checked.both_eq_ok_iff.2 ⟨Checked.both_eq_ok_iff.2
        ⟨Checked.field_eq_ok_iff.2 hamount, Checked.field_eq_ok_iff.2 hcurrency⟩, hdate⟩
    · simp [hx]

theorem value_eq_ok_iff {a : Decimal} {cur : Json} {date : LooseDate} {p : Option Provenance}
    {v : Value} :
    value a cur date p = .ok v ↔ (a.isFinite ∧ v.amount = a) ∧ currency cur = .ok v.currency ∧
      (∃ parts, date.parts "" = .ok parts ∧ parts.date [] "" = .ok v.date) ∧ v.provenance = p := by
  rw [value, valueOf_eq_ok_iff, finite_eq_ok_iff]

/-- An amount that is in order as a field is a finite number. -/
theorem amountField_eq_ok_iff {given : Json} {a : Decimal} :
    amountField given = .ok (.ok a) ↔ amount given = .ok a ∧ a.isFinite := by
  rw [amountField]
  split
  · rename_i b hb
    rw [hb, Except.ok.injEq, Except.ok.injEq, finite_eq_ok_iff]
    constructor
    · rintro ⟨h, rfl⟩
      exact ⟨rfl, h⟩
    · rintro ⟨rfl, h⟩
      exact ⟨h, rfl⟩
  · rename_i h
    simp [h]
  · rename_i e _ h
    simp [h]

theorem nonemptyText_eq_ok_iff {given : Json} {s : { s : String // s ≠ "" }} :
    nonemptyText given = .ok s ↔ given = .string s := by
  obtain ⟨s, hs⟩ := s
  cases given with
  | string s' =>
    by_cases h : s' = ""
    · subst h
      exact iff_of_false nofun fun h => hs (Json.string.inj h).symm
    · simp [nonemptyText, h]
  | _ => exact iff_of_false nofun nofun

theorem LooseProvenance.check_eq_ok_iff {given : LooseProvenance} {p : Provenance} :
    given.check = .ok p ↔ given.method = .string p.method ∧
      ∃ parts, given.source.parts "source_" = .ok parts ∧
        parts.date [] "source_" = .ok p.source := by
  rw [LooseProvenance.check, Except.mapError_eq_ok_iff, Except.bind_eq_ok_iff]
  constructor
  · rintro ⟨⟨s, parts⟩, hfields, h⟩
    obtain ⟨hmethod, hsource⟩ := Checked.both_eq_ok_iff.1 hfields
    obtain ⟨x, hx, h⟩ := Except.bind_eq_ok_iff.1 h
    cases h
    exact ⟨nonemptyText_eq_ok_iff.1 (Checked.field_eq_ok_iff.1 hmethod), parts, hsource, hx⟩
  · rintro ⟨hmethod, parts, hsource, hx⟩
    refine ⟨(⟨p.method, p.method_ne⟩, parts), Checked.both_eq_ok_iff.2 ⟨?_, hsource⟩, ?_⟩
    · exact Checked.field_eq_ok_iff.2 (nonemptyText_eq_ok_iff.2 hmethod)
    · simp [hx]

/-- Only finite amounts make a value. -/
theorem Draft.isFinite_of_check {d : Draft} {v : Value} (h : d.check = .ok v) :
    v.amount.isFinite := by
  obtain ⟨p, -, h⟩ := Except.bind_eq_ok_iff.1 h
  obtain ⟨field, hfield, h⟩ := Except.bind_eq_ok_iff.1 h
  obtain ⟨rfl, -⟩ := valueOf_eq_ok_iff.1 h
  exact (amountField_eq_ok_iff.1 hfield).2

/-! ## From parts that are in order -/

theorem date_parts_ofDate (label : String) (x : Date) :
    ∃ parts, LooseDate.parts label x = .ok parts ∧ parts.date [] label = .ok x :=
  ⟨_, LooseDate.parts_ofDate label x, by simp [DateParts.date]⟩

theorem LooseProvenance.check_ofDate {name : String} (h : name ≠ "") (x : Date) :
    LooseProvenance.check ⟨.string name, x⟩ = .ok ⟨name, x, h⟩ :=
  LooseProvenance.check_eq_ok_iff.2 ⟨rfl, date_parts_ofDate "source_" x⟩

/-- An amount that is at fault is the only one among sound parts. -/
theorem valueOf_fault (complaint : Complaint) (c : Currency) (x : Date) (p : Option Provenance) :
    valueOf (.error complaint) (.string c.code) x p =
      .error (.invalid .value [⟨["amount"], complaint⟩]) := by
  rw [valueOf, currency_code, LooseDate.parts_ofDate]
  rfl

theorem value_not_finite {a : Decimal} (h : ¬a.isFinite) (c : Currency) (x : Date)
    (p : Option Provenance) :
    value a (.string c.code) x p = .error (.invalid .value [⟨["amount"], .notFinite⟩]) := by
  rw [value, finite, if_neg h, valueOf_fault]

theorem value_ofDate {a : Decimal} (h : a.isFinite) (c : Currency) (x : Date)
    (p : Option Provenance) :
    value a (.string c.code) x p = .ok ⟨a, c, x, p⟩ :=
  value_eq_ok_iff.2 ⟨⟨h, rfl⟩, currency_code c, date_parts_ofDate "" x, rfl⟩

end DatedMoney.Checking
