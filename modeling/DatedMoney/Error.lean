import DatedMoney.Decimal.Context
import DatedMoney.Fault
import DatedMoney.Json.Printer
import DatedMoney.Notation.Reason
/-! Why a request has no answer. -/

namespace DatedMoney

/-- The errors that concern notation, methods and index data. -/
inductive DomainError where
  /-- Notation that is no text but data, as it is displayed. -/
  | notText (displayed : String)
  | invalidNotation (text : String) (reason : Notation.Reason)
  | unknownMethod (name : String)
  /-- An empty table, and a year as it is given and as it is displayed. -/
  | missingData (table : String) (year : Json) (displayed : String)

namespace DomainError

/-- The name under which a program knows the error. -/
def kind : DomainError → String
  | .notText _ | .invalidNotation .. => "INVALID_NOTATION"
  | .unknownMethod _ => "UNKNOWN_METHOD"
  | .missingData .. => "MISSING_DATA"

def message : DomainError → String
  | .notText displayed => s!"Invalid TimeBucks notation: {displayed}"
  | .invalidNotation text _ => s!"Invalid TimeBucks notation: {text}"
  | .unknownMethod name => s!"Transformation method '{name}' not found"
  | .missingData table _ displayed => s!"No {table} data available for year {displayed}"

def details : DomainError → Json
  | .notText _ => .object [("reason", .string "notation must be a string")]
  | .invalidNotation _ reason => .object [("reason", .string reason.message)]
  | .unknownMethod name => .object [("method", .string name)]
  | .missingData table year _ => .object [("table", .string table), ("year", year)]

end DomainError

/-- A fault as JSON. Of text that is not JSON itself, only the kind of the complaint is told; where
and why it breaks off is left out. -/
def Fault.toJson (f : Fault) : Json :=
  let kind := ("type", .string f.complaint.kind)
  match f.complaint with
  | .unreadableJson => .object [kind]
  | complaint =>
    .object [("loc", .array (f.path.map .string)), kind, ("msg", .string complaint.message)]

/-- What a list of faults is about. -/
inductive Subject where
  | value | provenance | report | settings
deriving DecidableEq, Repr

inductive Error where
  | domain (e : DomainError)
  | invalid (subject : Subject) (faults : List Fault)
  | signal (s : Signal)
  /-- Data of a kind that the operation does not take. -/
  | unsuitable
  /-- An integer has more digits than are written. -/
  | tooManyDigits
  | notACurrency (displayed : String)
  | notAnInteger (text : String)
  | unknownLevel (level : String)
  /-- An answer that repeats a number which JSON does not have. -/
  | notJson
  /-- An answer that repeats half of a surrogate pair, which has no bytes. -/
  | unencodable
  /-- What a custom method ends with, under its own name. -/
  | custom (kind message : String)

namespace Error

/-- The text of the errors that consist of one. -/
def message? : Error → Option String
  | .domain e => some e.message
  | .tooManyDigits => some (Text.tooManyDigits none)
  | .notACurrency displayed => some s!"{displayed} is not a valid Currency"
  | .notAnInteger text =>
    let count := Text.digitsInRow text
    some <| if Text.maxDigits < count then Text.tooManyDigits (some count)
      else s!"invalid literal for int() with base 10: {Text.quoteBegin text}"
  | .unknownLevel level => some s!"Unknown level: {Text.quote level}"
  | .notJson => some "Out of range float values are not JSON compliant"
  | .custom _ message => some message
  | .invalid .. | .signal _ | .unsuitable | .unencodable => none

/-- An error whose message displays data. -/
def displaying (given : Json) (e : String → Error) : Error :=
  (given.display?.map e).getD .tooManyDigits

/-- Data that is no text cannot be notation. -/
def notText (given : Json) : Error := displaying given fun s => .domain (.notText s)

/-- An empty table has no value for a year. -/
def missingData (table : String) (year : Json) : Error :=
  displaying year fun s => .domain (.missingData table year s)

end Error

/-- A computation on decimals as part of a larger one. -/
def signaled (r : Except Signal α) : Except Error α := r.mapError .signal

end DatedMoney
