import DatedMoney.Checking.LooseDate
import DatedMoney.Decimal.Reader
import DatedMoney.Notation.Scanner
/-! Values from given data. -/

namespace DatedMoney.Checking

/-- Data that may become a provenance. -/
structure LooseProvenance where
  method : Json
  source : LooseDate

def LooseProvenance.check (given : LooseProvenance) : Except Error Provenance :=
  let fields : Checked Provenance := do
    let (⟨method, method_ne⟩, source) ← Checked.both (.field ["method"] (nonemptyText given.method))
      (given.source.parts "source_")
    return ⟨method, ← source.date [] "source_", method_ne⟩
  fields.mapError (.invalid .provenance)

/-- A value of the fields, if they are in order. -/
def valueOf (amount : Except Complaint Decimal) (currency : Json) (date : LooseDate)
    (provenance : Option Provenance) : Except Error Value :=
  let fields : Checked Value := do
    let ((amount, currency), date) ← Checked.both
      (.both (.field ["amount"] amount) (.field ["currency"] (Checking.currency currency)))
      (date.parts "")
    return { amount, currency, date := ← date.date [] "", provenance }
  fields.mapError (.invalid .value)

/-- A value of an amount, if the currency and the date are in order and the amount is finite. -/
def value (amount : Decimal) (currency : Json) (date : LooseDate)
    (provenance : Option Provenance) : Except Error Value :=
  valueOf (finite amount) currency date provenance

/-- The amount that given data display. -/
def amount (given : Json) : Except Error Decimal :=
  match given.display? with
  | none => .error .tooManyDigits
  | some displayed =>
    match Decimal.ofText? displayed with
    | some a => .ok a
    | none => .error (.signal .invalidOperation)

/-- The amount as a field. Data that cannot be displayed is at fault like any other; data that
displays no number is an error at once. -/
def amountField (given : Json) : Except Error (Except Complaint Decimal) :=
  match amount given with
  | .ok a => .ok (finite a)
  | .error .tooManyDigits => .ok (.error .tooManyDigits)
  | .error e => .error e

/-- Data that may become a value. -/
structure Draft where
  amount : Json
  currency : Json
  date : LooseDate
  provenance : Option LooseProvenance

/-- The provenance comes first, then the amount as a number, then all other fields. -/
def Draft.check (d : Draft) : Except Error Value := do
  let provenance ← d.provenance.mapM (·.check)
  valueOf (← amountField d.amount) d.currency d.date provenance

/-- The names of a draft's fields, and whether they must be given. -/
def naturalFields : List (String × Bool) :=
  [("amount", true), ("currency", true), ("year", true), ("month", false), ("day", false)]

def calculatedFields : List (String × Bool) :=
  naturalFields ++
    [("method", true), ("source_year", true), ("source_month", false), ("source_day", false)]

/-- The members of an object as a draft. What is absent is null, and members of other names do not
count. With a method, the value is a calculated one. -/
def Draft.ofMembers (given : Json) : Draft where
  amount := given.field "amount"
  currency := given.field "currency"
  date := ⟨given.field "year", given.field "month", given.field "day"⟩
  provenance := (given.field? "method").map fun method =>
    { method, source :=
        ⟨given.field "source_year", given.field "source_month", given.field "source_day"⟩ }

/-- Whether the members of an object are those that a draft needs, and no others. -/
def Draft.complete (given : Json) : Bool :=
  let fields := if (given.field? "method").isSome then calculatedFields else naturalFields
  match given with
  | .object members =>
    members.all (fun (name, _) => fields.any (·.1 = name)) &&
      fields.all fun (name, required) => !required || members.any (·.1 = name)
  | _ => false

/-- A value from named arguments. -/
def ofArguments (given : Json) : Except Error Value :=
  if Draft.complete given then (Draft.ofMembers given).check else .error .unsuitable

/-- A value from notation, or from an object with its fields. -/
def ofJson (given : Json) : Except Error Value :=
  match given with
  | .string _ | .halved .. => Notation.ofJson given
  | given => (Draft.ofMembers given).check

end DatedMoney.Checking
