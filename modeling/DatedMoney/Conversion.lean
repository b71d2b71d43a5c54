import DatedMoney.Notation.Writer
import DatedMoney.Registry
/-! Conversions: from notation to notation, of a value with a report, and by several methods. -/

namespace DatedMoney

/-- A conversion, and the rate between the amounts; there is none from an amount of zero. -/
structure Report where
  source : Value
  result : Value
  method : String
  rate : Option Decimal

namespace Conversion
open Checking

/-- Converts the notation of a value. -/
def convert (r : Registry) (given : Json) (method : String) (target : LooseDate) :
    Except Error String := do
  let source ← Notation.ofJson given
  let result ← r.transform source method target
  Notation.write result

/-- The rate that leads from one amount to another. -/
def impliedRate (source result : Decimal) : Except Signal (Option Decimal) := do
  if ← Decimal.equal source 0 then return none
  return some (← Decimal.Context.money.div result source)

/-- Converts a value and reports on it. Both values must have a notation, and the rate must be
finite. -/
def details (r : Registry) (source : Value) (method : String) (target : LooseDate) :
    Except Error Report := do
  let result ← r.transform source method target
  let rate ← signaled (impliedRate source.amount result.amount)
  let _ ← Notation.write source
  let _ ← Notation.write result
  match rate with
  | none => return ⟨source, result, method, none⟩
  | some rate =>
    let rate ← (Checked.field ["rate"] (finite rate)).mapError (.invalid .report)
    return ⟨source, result, method, some rate⟩

/-- Converts a value by several methods, all of the registry if none are named. Each name counts
once. The value must have a notation, and then the target year must be one that can be displayed. -/
def compare (r : Registry) (source : Value) (methods? : Option (List String))
    (target : LooseDate) : Except Error (List (String × Value)) := do
  let names := (methods?.getD r.names).eraseDups
  let results ← names.mapM fun name => return (name, ← r.transform source name target)
  let _ ← Notation.write source
  if target.year.display?.isNone then throw .tooManyDigits
  return results

end Conversion
end DatedMoney
