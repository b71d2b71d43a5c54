import DatedMoney.Checking.Draft
import DatedMoney.Index.Table
/-! Tables from given data, and their values for years as given. -/

namespace DatedMoney.Index

/-- The year of an entry. Numbers lose their fraction; text must be a whole number. -/
def entryYear : Json → Except Error Int
  | .int n => .ok n
  | .bool b => .ok (if b then 1 else 0)
  | .float x =>
    match x.truncate? with
    | some n => .ok n
    | none => .error .unsuitable
  | .string s =>
    match Text.readInt? s with
    | some n => .ok n
    | none => .error (.notAnInteger s)
  | .halved codes half => .error (.notAnInteger (JsonText.halved codes half).nearest)
  | _ => .error .unsuitable

namespace Table

/-- A table of entries as given; the first that cannot be read is the error. -/
def ofJson (name : String) (entries : List (Json × Json)) : Except Error Table := do
  let pairs ← entries.mapM fun (year, value) => do
    return (← entryYear year, ← Checking.amount value)
  return ofPairs name pairs

/-- Whether data can be compared with years at all. -/
def comparable : Json → Bool
  | .array _ | .object _ => false
  | _ => true

/-- The value for a year as given. A number that is no year of the table is a point in time, in
years. What is no number has no place among the years. -/
def valueAt (t : Table) (year : Json) : Except Error Decimal :=
  if !comparable year then .error .unsuitable
  else
    match year.whole?.bind (t.values.lookup ·) with
    | some a => .ok a
    | none =>
      if ht : t.years = [] then .error (.missingData t.name year)
      else
        match year with
        | .int y => t.valueFor y
        | .bool b => t.valueFor (if b then 1 else 0)
        | .float x => t.valueAround ht x.exceeds fun y₁ => (x.subInt y₁).toDecimal
        | _ => .error .unsuitable

def rateAt (t : Table) (source target : Json) : Except Error Decimal := do
  let a ← t.valueAt source
  let b ← t.valueAt target
  signaled (Decimal.Context.money.div b a)

def containsAt (t : Table) (year : Json) : Except Error Bool :=
  if comparable year then .ok (year.whole?.any t.contains) else .error .unsuitable

/-- The table in short, as it appears in messages. -/
def describe (t : Table) : String :=
  s!"IndexTable({Text.quote t.name}, {t.years.length} years)"

end Table
end DatedMoney.Index
