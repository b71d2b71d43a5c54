import DatedMoney.Decimal.Arithmetic
import DatedMoney.Decimal.Printer
import DatedMoney.Error
import DatedMoney.Value
/-! The notation of values. -/

namespace DatedMoney.Notation

/-- An amount with grouped thousands: without places if it is whole, else with two, unless it rounds
to a whole number. An infinite amount is a word. -/
def amountToChars (a : Decimal) : Except Signal (List Char) := do
  if ← Decimal.equal a 0 then return ['0']
  if a.isWhole || a matches .infinite _ then return a.toGrouped 0
  let cents ← a.toCents
  if cents.isZero then return ['0']
  return cents.toGrouped (if cents.isWhole then 0 else 2)

/-- A date in as far as it is given, unless one of its numbers has too many digits. A day without a
month is left out. -/
def partsToChars (y : Int) (m? d? : Option Int) : Except Error (List Char) :=
  let shown := y :: m?.elim [] fun m => m :: d?.toList
  if shown.all Text.isShort then .ok (Date.partsToChars y m? d?) else .error .tooManyDigits

def dateToChars (date : Date) : Except Error (List Char) :=
  partsToChars date.year (date.month?.map (·.val)) (date.day?.map (·.val))

def provenanceToChars : Option Provenance → Except Error (List Char)
  | none => .ok []
  | some p => return '[' :: p.method.toList ++ ':' :: (← dateToChars p.source) ++ [']']

def toChars (v : Value) : Except Error (List Char) := do
  let amount ← signaled (amountToChars v.amount)
  let date ← dateToChars v.date
  return v.currency.symbol.toList ++ amount ++ '@' :: date ++ (← provenanceToChars v.provenance)

/-- The notation of a value. It fails for amounts that cannot be rounded to cents, and for years of
too many digits. -/
def write (v : Value) : Except Error String := return .ofList (← toChars v)

end DatedMoney.Notation
