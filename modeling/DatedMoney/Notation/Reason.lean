import DatedMoney.Text.Numeral
import DatedMoney.Text.Quoted
/-! Why a text is not the notation of a value. -/

namespace DatedMoney.Notation

/-- The parts of the notation that have a fixed number of digits. -/
inductive Part where
  | fraction | year | month | day
deriving DecidableEq, Repr

namespace Part

def name : Part → String
  | .fraction => "amount fraction"
  | .year => "year"
  | .month => "month"
  | .day => "day"

def width : Part → Nat
  | .year => 4
  | _ => 2

end Part

/-- What the text does not have where it should. -/
inductive Expectation where
  | symbol
  | amount
  /-- The digits of an amount, taken together, should be a number. -/
  | number (text : String)
  | literal (c : Char)
  | digits (part : Part)
  | inRange (part : Part) (n : Nat)
  | method
  | nothing
deriving DecidableEq, Repr

/-- The expectation that failed first, and the position in the text, in characters. -/
structure Reason where
  expectation : Expectation
  position : Nat
deriving DecidableEq, Repr

def Reason.message (r : Reason) : String :=
  let position := s!"at position {r.position}"
  match r.expectation with
  | .symbol => "missing or unsupported currency symbol"
  | .amount => s!"amount must start with a digit {position}"
  | .number text => s!"invalid amount {Text.quote text}"
  | .literal c => s!"expected '{c}' {position}"
  | .digits part => s!"{part.name} must be {part.width} digits {position}"
  | .inRange part n => s!"{part.name} {String.ofList (Text.intPadded part.width n)} out of range"
  | .method => s!"method must start with an uppercase letter {position}"
  | .nothing => s!"unexpected trailing text {position}"

end DatedMoney.Notation
