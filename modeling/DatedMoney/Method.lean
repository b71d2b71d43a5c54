import DatedMoney.Index.LooseYear
import DatedMoney.Index.Reference
/-! Methods: ways to carry a value over to another date. -/

namespace DatedMoney

/-- By an index, under the name of its table if no other is given, or in any other way. -/
inductive Method where
  | index (table : Index.Table) (name : String := table.name)
  | custom (carry : Value → Checking.LooseDate → Except Error Value)

namespace Method
open Checking Decimal

/-- A value with a new amount at a new date. It keeps the currency, and the date of the source
becomes its provenance. -/
def carryOver (name : String) (source : Value) (amount : Decimal) (target : LooseDate) :
    Except Error Value := do
  let provenance ← LooseProvenance.check ⟨.string name, source.date⟩
  Checking.value amount (.string source.currency.code) target provenance

/-- The amount grows as the index does from the year of the source to that of the target, and is
rounded to cents. -/
def rescale (t : Index.Table) (source : Value) (target : LooseDate) (name : String := t.name) :
    Except Error Value := do
  let a ← t.valueFor source.date.year
  let b ← t.valueAt target.year
  let rate ← signaled (Context.money.div b a)
  let scaled ← signaled (Context.money.mul source.amount rate)
  carryOver name source (← signaled scaled.toCents) target

def apply (m : Method) (source : Value) (target : LooseDate) : Except Error Value :=
  match m with
  | .index t name => rescale t source target name
  | .custom carry => carry source target

/-- By a factor. -/
def scale (name : String) (factor : Decimal) : Method :=
  .custom fun source target => do
    carryOver name source (← signaled (Context.money.mul source.amount factor)) target

/-- To one value whatever the source. -/
def fixed (value : Value) : Method := .custom fun _ _ => .ok value

/-- A method by an index in short; of others nothing is known but that they are custom. -/
def describe : Method → String
  | .index _ name => s!"IndexTransformation({Text.quote name})"
  | .custom _ => "custom"

end Method
end DatedMoney
