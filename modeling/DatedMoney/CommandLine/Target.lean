import DatedMoney.Date
import DatedMoney.Text.Numeral
import DatedMoney.Text.Quoted
/-! Target dates on the command line. -/

namespace DatedMoney.CommandLine

inductive TargetError where
  | malformed
  | monthOutOfRange
  | dayOutOfRange
  /-- A part all of whose characters count as digits, but not as one number that can be read. -/
  | notANumber (part : String)
deriving DecidableEq, Repr

/-- How many decimal digits a part begins with. -/
def leadingDigits (part : List Char) : Nat :=
  (part.takeWhile fun c => (Text.digitValue? c).isSome).length

/-- What is wrong with a text as a target date, unless one of its parts is no number. -/
def TargetError.message (text : String) : TargetError → String
  | .malformed => s!"invalid target date: {Text.quote text}"
  | .monthOutOfRange => s!"month out of range in target date: {Text.quote text}"
  | .dayOutOfRange => s!"day out of range in target date: {Text.quote text}"
  | .notANumber part =>
    let count := leadingDigits part.toList
    if Text.maxDigits < count then Text.tooManyDigits (some count)
    else s!"invalid literal for int() with base 10: {Text.quoteBegin part}"

/-- The number of one part, in decimal digits of any script. Zeros in front count as digits too. -/
def targetNumber (part : List Char) : Except TargetError Int :=
  if Text.maxDigits < leadingDigits part then .error (.notANumber (.ofList part))
  else
    match Text.digitsValue? part with
    | some n => .ok n
    | none => .error (.notANumber (.ofList part))

/-- A month or a day that there is. -/
def inRange (outside : TargetError) (n : Int) : Except TargetError (Bounded low high) :=
  match Bounded.ofInt? n with
  | some b => .ok b
  | none => .error outside

/-- The date of a year, of a year and a month, or of a year, a month and a day. -/
def targetDate : List Int → Except TargetError Date
  | [year] => .ok (.yearly year)
  | [year, month] => return .monthly year (← inRange .monthOutOfRange month)
  | [year, month, day] =>
    return .daily year (← inRange .monthOutOfRange month) (← inRange .dayOutOfRange day)
  | _ => .error .malformed

/-- Reads a year, a month of a year or a day of a month. All numbers are read before any of them is
checked. -/
def readTarget (text : String) : Except TargetError Date := do
  let parts := text.toList.splitOn '-'
  if 3 < parts.length || !parts.all fun part => part ≠ [] && part.all Text.isAnyDigit then
    throw .malformed
  targetDate (← parts.mapM targetNumber)

end DatedMoney.CommandLine
