import DatedMoney.Currency
import DatedMoney.Text.Numeral
/-! Complaints about single fields of given data. -/

namespace DatedMoney

/-- What is wrong with a field. -/
inductive Complaint where
  | absent
  | notFinite
  | notACurrency
  | notAnInteger
  | unreadableInteger
  | oversizedInteger
  | fractionalInteger
  | below (bound : Int)
  | above (bound : Int)
  | notText
  | emptyText
  /-- A string in which half of a surrogate pair stands alone. -/
  | notUnicode
  /-- An integer of more digits than are written. -/
  | tooManyDigits
  | notAnObject
  | unreadableJson
  | frozen
  | dayAlone (label : String)
deriving DecidableEq, Repr

/-- The codes of the currencies as a choice. -/
def Currency.choice : String :=
  let quoted (c : Currency) := s!"'{c.code}'"
  ", ".intercalate (all.dropLast.map quoted) ++ " or " ++ quoted .cny

namespace Complaint

/-- The name under which a program knows the complaint. -/
def kind : Complaint → String
  | .absent => "missing"
  | .notFinite => "finite_number"
  | .notACurrency => "enum"
  | .notAnInteger => "int_type"
  | .unreadableInteger => "int_parsing"
  | .oversizedInteger => "int_parsing_size"
  | .fractionalInteger => "int_from_float"
  | .below _ => "greater_than_equal"
  | .above _ => "less_than_equal"
  | .notText => "string_type"
  | .emptyText => "string_too_short"
  | .notUnicode => "string_unicode"
  | .notAnObject => "model_attributes_type"
  | .unreadableJson => "json_invalid"
  | .frozen => "frozen_instance"
  | .tooManyDigits | .dayAlone _ => "value_error"

def message : Complaint → String
  | .absent => "Field required"
  | .notFinite => "Input should be a finite number"
  | .notACurrency => "Input should be " ++ Currency.choice
  | .notAnInteger => "Input should be a valid integer"
  | .unreadableInteger => "Input should be a valid integer, unable to parse string as an integer"
  | .oversizedInteger => "Unable to parse input string as an integer, exceeded maximum size"
  | .fractionalInteger =>
    "Input should be a valid integer, got a number with a fractional part"
  | .below bound => "Input should be greater than or equal to " ++ Text.ofInt bound
  | .above bound => "Input should be less than or equal to " ++ Text.ofInt bound
  | .notText => "Input should be a valid string"
  | .emptyText => "String should have at least 1 character"
  | .notUnicode =>
    "Input should be a valid string, unable to parse raw data as a unicode string"
  | .tooManyDigits => "Value error, " ++ Text.tooManyDigits none
  | .notAnObject => "Input should be a valid dictionary or object to extract fields from"
  | .unreadableJson => "JSON decode error"
  | .frozen => "Instance is frozen"
  | .dayAlone label => s!"Value error, {label}day requires {label}month"

end Complaint

/-- A complaint, and the path to the field that it is about. -/
structure Fault where
  path : List String
  complaint : Complaint
deriving DecidableEq, Repr

end DatedMoney
