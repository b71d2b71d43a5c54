import DatedMoney.Error
import DatedMoney.Value
/-! Values from their notation:

    value      = symbol amount "@" date [ "[" method ":" date "]" ]
    amount     = digit { digit | "," } [ "." 2 digits ]
    date       = 4 digits [ "-" 2 digits [ "-" 2 digits ] ]
    method     = upper { upper } [ ":" (upper | digit) { upper | digit } ]

The text is scanned once from left to right. -/

namespace DatedMoney.Notation

/-- A scanner of one part: what the part denotes and the text after it, or the expectation that
failed and the text from there on. -/
abbrev Scan (α : Type) := List Char → Except (Expectation × List Char) (α × List Char)

def isUpper (c : Char) : Bool := 'A' ≤ c && c ≤ 'Z'

def isUpperOrDigit (c : Char) : Bool := isUpper c || Text.isDigit c

def isDigitOrComma (c : Char) : Bool := Text.isDigit c || c = ','

def literal (c : Char) : Scan Unit
  | c' :: cs => if c' = c then .ok ((), cs) else .error (.literal c, c' :: cs)
  | [] => .error (.literal c, [])

/-- As many digits as the part has. -/
def digits (part : Part) : Scan Nat := fun cs =>
  let ds := cs.take part.width
  if ds.length = part.width ∧ ds.all Text.isDigit then
    .ok (Nat.ofDigitChars 10 ds 0, cs.drop part.width)
  else .error (.digits part, cs)

def bounded (part : Part) : Scan (Bounded low high) := fun cs => do
  let (n, cs) ← digits part cs
  match Bounded.ofInt? n with
  | some b => return (b, cs)
  | none => .error (.inRange part n, cs)

def symbol : Scan Currency := fun cs =>
  match Currency.readable.find? (·.symbol.toList.isPrefixOf cs) with
  | some c => .ok (c, cs.drop c.symbol.length)
  | none => .error (.symbol, cs)

/-- Commas among the digits count for nothing. -/
def amount : Scan Decimal := fun cs =>
  if cs.head?.any Text.isDigit then
    let n := Nat.ofDigitChars 10 ((cs.takeWhile isDigitOrComma).filter (· ≠ ',')) 0
    match cs.dropWhile isDigitOrComma with
    | '.' :: cs => do
      let (cents, cs) ← digits .fraction cs
      return (.finite false (n * 100 + cents) (-2), cs)
    | cs => .ok (.finite false n 0, cs)
  else .error (.amount, cs)

def date : Scan Date := fun cs => do
  let (y, cs) ← digits .year cs
  match cs with
  | '-' :: cs =>
    let (m, cs) ← bounded .month cs
    match cs with
    | '-' :: cs =>
      let (d, cs) ← bounded .day cs
      return (.daily y m d, cs)
    | cs => return (.monthly y m, cs)
  | cs => return (.yearly y, cs)

/-- The suffix of a method, with its colon, and the text after it. A colon that no further colon
follows is not the start of a suffix, but of the date. -/
def suffix : List Char → List Char × List Char
  | ':' :: cs =>
    let s := cs.takeWhile isUpperOrDigit
    match s, cs.dropWhile isUpperOrDigit with
    | _ :: _, ':' :: rest => (':' :: s, ':' :: rest)
    | _, _ => ([], ':' :: cs)
  | cs => ([], cs)

/-- A method is not empty. -/
def method : Scan { s : String // s ≠ "" } := fun cs =>
  match cs.takeWhile isUpper with
  | [] => .error (.method, cs)
  | c :: name =>
    let (s, cs) := suffix (cs.dropWhile isUpper)
    .ok (⟨.ofList (c :: name ++ s), by simp [← String.toList_inj]⟩, cs)

def provenance : Scan (Option Provenance)
  | '[' :: cs => do
    let (method, cs) ← method cs
    let ((), cs) ← literal ':' cs
    let (source, cs) ← date cs
    let ((), cs) ← literal ']' cs
    return (some ⟨method, source, method.2⟩, cs)
  | cs => .ok (none, cs)

def value : Scan Value := fun cs => do
  let (currency, cs) ← symbol cs
  let (amount, cs) ← amount cs
  let ((), cs) ← literal '@' cs
  let (date, cs) ← date cs
  let (provenance, cs) ← provenance cs
  return ({ amount, currency, date, provenance }, cs)

/-- The whole text as a part. -/
def scanAs (part : Scan α) (text : String) : Except DomainError α :=
  let cs := text.toList
  let refuse (expectation : Expectation) (rest : List Char) :=
    .error (.invalidNotation text ⟨expectation, cs.length - rest.length⟩)
  match part cs with
  | .ok (a, []) => .ok a
  | .ok (_, rest) => refuse .nothing rest
  | .error (expectation, rest) => refuse expectation rest

/-- The whole text as a value. -/
def scan (text : String) : Except DomainError Value := scanAs value text

/-- Given data as a value: only strings can be notation. No part of the notation is half of a
surrogate pair, nor the character that stands for it in messages. -/
def ofJson : Json → Except Error Value
  | .string text => (scan text).mapError .domain
  | .halved codes half => (scan (JsonText.halved codes half).nearest).mapError .domain
  | given => .error (.notText given)

/-- Whether given data is the notation of a value. -/
def accepts (given : Json) : Bool := (ofJson given).isOk

/-- Tells whether given data is the notation of a value, unless it cannot even be displayed. -/
def validate (given : Json) : Except Error Bool :=
  match ofJson given with
  | .ok _ => .ok true
  | .error (.domain _) => .ok false
  | .error e => .error e

end DatedMoney.Notation
