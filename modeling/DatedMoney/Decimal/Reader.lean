import DatedMoney.Decimal.Basic
import DatedMoney.Text.Numeral
/-! Decimals from text. The number is taken as it stands, without rounding. -/

namespace DatedMoney.Decimal

/-- The exponents of the digits of a number that can be read. -/
def maxExponent : Int := 999999999999999999
def minExponent : Int := -1999999999999999997

/-- Blanks around the text and underscores anywhere count for nothing, and a decimal digit of any
script counts as the ASCII digit of its value. No other character outside ASCII may occur. -/
def plainChars? (cs : List Char) : Option (List Char) :=
  ((Text.strip Text.isBlank cs).filter (· ≠ '_')).mapM fun c =>
    if c.toNat < 128 then some c else (Text.digitValue? c).map Nat.digitChar

/-- A whole exponent: digits after an optional sign. -/
def exponent? (cs : List Char) : Option Int :=
  let digits? : List Char → Option Nat := fun ds =>
    if ds ≠ [] && ds.all Text.isDigit then some (Nat.ofDigitChars 10 ds 0) else none
  match cs with
  | '-' :: ds => (digits? ds).map (-Int.ofNat ·)
  | '+' :: ds => (digits? ds).map Int.ofNat
  | ds => (digits? ds).map Int.ofNat

/-- A finite number, if its digits stand within reach. -/
def finite? (negative : Bool) (c : Nat) (e : Int) : Option Decimal :=
  if minExponent ≤ e && e + digitCount c - 1 ≤ maxExponent then
    some (.finite negative c e)
  else none

/-- Digits, a point among or around them, and an exponent. -/
def number? (negative : Bool) (cs : List Char) : Option Decimal := do
  let whole := cs.takeWhile Text.isDigit
  let rest := cs.dropWhile Text.isDigit
  let (fraction, rest) := match rest with
    | '.' :: rest => (rest.takeWhile Text.isDigit, rest.dropWhile Text.isDigit)
    | rest => ([], rest)
  let exponent ← match rest with
    | [] => some 0
    | 'e' :: rest | 'E' :: rest => exponent? rest
    | _ => none
  if whole = [] ∧ fraction = [] then none
  finite? negative (Nat.ofDigitChars 10 (whole ++ fraction) 0) (exponent - fraction.length)

/-- The payload of what is not a number. -/
def payload? (cs : List Char) : Option Nat :=
  if cs.all Text.isDigit then some (Nat.ofDigitChars 10 cs 0) else none

def unsigned? (negative : Bool) (cs : List Char) : Option Decimal :=
  match cs.map Char.toLower with
  | 'n' :: 'a' :: 'n' :: digits => (payload? digits).map (.nan negative false)
  | 's' :: 'n' :: 'a' :: 'n' :: digits => (payload? digits).map (.nan negative true)
  | lower =>
    if lower = "inf".toList || lower = "infinity".toList then some (.infinite negative)
    else number? negative cs

/-- Reads a decimal; `none` if the text is not one. -/
def ofText? (s : String) : Option Decimal := do
  match ← plainChars? s.toList with
  | '-' :: cs => unsigned? true cs
  | '+' :: cs => unsigned? false cs
  | cs => unsigned? false cs

end DatedMoney.Decimal
