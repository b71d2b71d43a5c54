import DatedMoney.Proofs.Checking.Draft
import DatedMoney.Value.Members

/-!
# Values as records

The fields that a value shows obey the rule for dates, and a provenance is there as a whole or not
at all (`Value.wellFormed`). A value that is made again from its fields is the same.
-/

namespace DatedMoney

/-- The rule for dates: there is a year, a month is one of twelve, and a day one of 31 of a month. -/
structure Checking.LooseDate.Ordered (d : LooseDate) : Prop where
  year : ∃ y, d.year = .int y
  month : d.month = .null ∨ ∃ m, d.month = .int m ∧ 1 ≤ m ∧ m ≤ 12
  day : d.day = .null ∨ d.month ≠ .null ∧ ∃ n, d.day = .int n ∧ 1 ≤ n ∧ n ≤ 31

theorem Checking.LooseDate.ordered_ofDate (d : Date) : (ofDate d).Ordered := by
  cases d with
  | yearly y => exact ⟨⟨y, rfl⟩, .inl rfl, .inl rfl⟩
  | monthly y m => exact ⟨⟨y, rfl⟩, .inr ⟨m.val, rfl, m.low_le, m.le_high⟩, .inl rfl⟩
  | daily y m n =>
    exact ⟨⟨y, rfl⟩, .inr ⟨m.val, rfl, m.low_le, m.le_high⟩,
      .inr ⟨nofun, n.val, rfl, n.low_le, n.le_high⟩⟩

/-- The fields of a date in a record, with a label before their names. -/
def Json.dateFields (record : Json) (label : String) : Checking.LooseDate :=
  ⟨record.field (label ++ "year"), record.field (label ++ "month"), record.field (label ++ "day")⟩

namespace Value

/-- All fields of a value, those of the provenance among them. -/
def record (v : Value) : Json := .object (v.members ++ Provenance.members v.provenance)

/-- What the fields of a value are like. -/
structure WellFormed (v : Value) : Prop where
  date : (v.record.dateFields "").Ordered
  natural : v.provenance = none →
    ∀ name ∈ ["method", "source_year", "source_month", "source_day"], v.record.field name = .null
  calculated : v.provenance ≠ none →
    (∃ s, v.record.field "method" = .string s ∧ s ≠ "") ∧
      (v.record.dateFields "source_").Ordered
  /-- The checks of a new value find no fault with them, the amount apart. -/
  accepted : ∀ a : Decimal, a.isFinite →
    Checking.value a (v.record.field "currency") (v.record.dateFields "") v.provenance =
      .ok { v with amount := a }
  acceptedProvenance : ∀ p, v.provenance = some p →
    Checking.LooseProvenance.check
      ⟨v.record.field "method", v.record.dateFields "source_"⟩ = .ok p

theorem sourceFields_record {v : Value} {p : Provenance} (h : v.provenance = some p) :
    v.record.dateFields "source_" = .ofDate p.source := by
  obtain ⟨a, c, d, q⟩ := v
  obtain rfl : q = some p := h
  rfl

theorem method_record {v : Value} {p : Provenance} (h : v.provenance = some p) :
    v.record.field "method" = .string p.method := by
  obtain ⟨a, c, d, q⟩ := v
  obtain rfl : q = some p := h
  rfl

theorem wellFormed (v : Value) : v.WellFormed where
  date := Checking.LooseDate.ordered_ofDate v.date
  natural h := by
    obtain ⟨a, c, d, p⟩ := v
    obtain rfl : p = none := h
    simp only [List.forall_mem_cons, List.not_mem_nil, false_implies, implies_true, and_true]
    exact ⟨rfl, rfl, rfl, rfl⟩
  calculated h := by
    obtain ⟨p, hp⟩ := Option.ne_none_iff_exists'.1 h
    rw [method_record hp, sourceFields_record hp]
    exact ⟨⟨p.method, rfl, p.method_ne⟩, Checking.LooseDate.ordered_ofDate p.source⟩
  accepted a ha := Checking.value_ofDate ha ..
  acceptedProvenance p hp := by
    rw [method_record hp, sourceFields_record hp]
    exact Checking.LooseProvenance.check_ofDate p.method_ne p.source

end Value
end DatedMoney
