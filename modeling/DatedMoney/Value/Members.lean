import DatedMoney.Decimal.Printer
import DatedMoney.Json.Basic
import DatedMoney.Value
/-! The parts of values as members of JSON objects. -/

namespace DatedMoney

/-- A decimal as JSON: its exact form. -/
def Decimal.toJson (a : Decimal) : Json := .string a.toText

/-- The fields of a date with a label before their names; without a date all are null. -/
def Date.members (label : String) (date? : Option Date) : List (String × Json) :=
  [(label ++ "year", Json.ofInt? (date?.map (·.year))),
    (label ++ "month", Json.ofInt? (date?.bind fun d => d.month?.map (·.val))),
    (label ++ "day", Json.ofInt? (date?.bind fun d => d.day?.map (·.val)))]

def Provenance.members (p? : Option Provenance) : List (String × Json) :=
  ("method", Json.ofOption .string (p?.map (·.method))) ::
    Date.members "source_" (p?.map (·.source))

/-- All of a value but its provenance. -/
def Value.members (v : Value) : List (String × Json) :=
  ("amount", v.amount.toJson) :: ("currency", .string v.currency.code) ::
    Date.members "" (some v.date)

end DatedMoney
