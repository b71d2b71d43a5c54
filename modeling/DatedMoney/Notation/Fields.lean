import DatedMoney.Checking.Draft
/-! Notation in two steps: the fields as they stand in the text, and the value that they make up,
which is checked as if the fields had been given one by one. -/

namespace DatedMoney.Notation
open Checking

/-- A date as it stands in a text. -/
structure PlainDate where
  year : Int
  month? : Option Int
  day? : Option Int
deriving DecidableEq, Repr

/-- The date as one that is given field by field. -/
def PlainDate.loose (d : PlainDate) : LooseDate :=
  ⟨.int d.year, Json.ofInt? d.month?, Json.ofInt? d.day?⟩

/-- The fields of a notation. Nothing keeps them from contradicting each other. -/
structure Fields where
  amount : Decimal
  currency : Currency
  date : PlainDate
  method? : Option String
  source? : Option PlainDate
deriving DecidableEq, Repr

/-- A number of a fixed number of digits, between two bounds. -/
def plainBounded (part : Part) (low high : Nat) : Scan Int := fun cs => do
  let (n, cs) ← digits part cs
  if low ≤ n ∧ n ≤ high then return (n, cs) else throw (.inRange part n, cs)

def plainDate : Scan PlainDate := fun cs => do
  let (y, cs) ← digits .year cs
  match cs with
  | '-' :: cs =>
    let (m, cs) ← plainBounded .month 1 12 cs
    match cs with
    | '-' :: cs =>
      let (d, cs) ← plainBounded .day 1 31 cs
      return (⟨y, some m, some d⟩, cs)
    | cs => return (⟨y, some m, none⟩, cs)
  | cs => return (⟨y, none, none⟩, cs)

/-- The text of an amount is cut out first and then read as a decimal. -/
def plainAmount : Scan Decimal := fun cs => do
  if !cs.head?.any Text.isDigit then throw (.amount, cs)
  let whole := cs.takeWhile isDigitOrComma
  let (fraction, rest) ← match cs.dropWhile isDigitOrComma with
    | '.' :: cs => do
      let (_, rest) ← digits .fraction cs
      pure ('.' :: cs.take Part.fraction.width, rest)
    | cs => pure ([], cs)
  match Decimal.ofText? (.ofList (whole.filter (· ≠ ',') ++ fraction)) with
  | some a => return (a, rest)
  | none => throw (.number (.ofList (whole ++ fraction)), rest)

def plainOrigin : Scan (Option (String × PlainDate))
  | '[' :: cs => do
    let (method, cs) ← method cs
    let ((), cs) ← literal ':' cs
    let (source, cs) ← plainDate cs
    let ((), cs) ← literal ']' cs
    return (some (method, source), cs)
  | cs => .ok (none, cs)

def fields : Scan Fields := fun cs => do
  let (currency, cs) ← symbol cs
  let (amount, cs) ← plainAmount cs
  let ((), cs) ← literal '@' cs
  let (date, cs) ← plainDate cs
  let (origin, cs) ← plainOrigin cs
  return ({ amount, currency, date, method? := origin.map (·.1), source? := origin.map (·.2) }, cs)

/-- The whole text as fields. -/
def readFields (text : String) : Except DomainError Fields := scanAs fields text

/-- The value of the fields, calculated if they have both a method and a source. -/
def Fields.value (f : Fields) : Except Error Value := do
  let provenance ← match f.method?, f.source? with
    | some method, some source => some <$> LooseProvenance.check ⟨.string method, source.loose⟩
    | _, _ => pure none
  Checking.value f.amount (.string f.currency.code) f.date.loose provenance

/-- The whole text as a value, by way of its fields. -/
def readThrough (text : String) : Except Error Value := do
  let fields ← (readFields text).mapError .domain
  fields.value

end DatedMoney.Notation
