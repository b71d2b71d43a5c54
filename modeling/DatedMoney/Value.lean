import DatedMoney.Currency
import DatedMoney.Date
import DatedMoney.Decimal.Basic
/-! Values: amounts of money at a date. -/

namespace DatedMoney

/-- Where a calculated value comes from: the method that carried it over, and the date before. -/
structure Provenance where
  method : String
  source : Date
  method_ne : method ≠ ""
deriving DecidableEq, Repr

/-- A value is natural, that is, stated for its date, or it is calculated, and then it has a
provenance. -/
structure Value where
  amount : Decimal
  currency : Currency
  date : Date
  provenance : Option Provenance
deriving DecidableEq, Repr

namespace Value

def isCalculated (v : Value) : Bool := v.provenance.isSome

/-- The value without its provenance. -/
def natural (v : Value) : Value := { v with provenance := none }

/-- The value itself, if it is calculated. -/
def calculated? (v : Value) : Option Value := if v.isCalculated then some v else none

/-- The value with another amount; all else is kept. Any decimal will do. -/
def withAmount (v : Value) (amount : Decimal) : Value := { v with amount }

end Value
end DatedMoney
