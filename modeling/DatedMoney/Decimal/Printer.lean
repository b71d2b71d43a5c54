import DatedMoney.Decimal.Basic
import DatedMoney.Text.Numeral
/-! Decimals as text: the exact form, which shows coefficient and exponent, and the form with
grouped thousands for a fixed number of places. -/

namespace DatedMoney.Decimal

def signChars (negative : Bool) : List Char := if negative then ['-'] else []

/-- The digits of a number below one carry zeros in front up to one place before the point. -/
def withPoint (digits : List Char) (places : Nat) : List Char :=
  let digits := digits.leftpad (places + 1) '0'
  let whole := digits.length - places
  if places = 0 then digits else digits.take whole ++ '.' :: digits.drop whole

/-- One digit before the point, and the exponent of that digit. -/
def scientific (digits : List Char) (adjusted : Int) : List Char :=
  let mantissa := match digits with
    | d :: d' :: ds => d :: '.' :: d' :: ds
    | ds => ds
  let sign := if adjusted < 0 then '-' else '+'
  mantissa ++ 'E' :: sign :: Nat.toDigits 10 adjusted.natAbs

/-- The exact form. A number is written out if it needs no zero before the point for its exponent,
and has at most five zeros after it; all others show the exponent. -/
def toChars : Decimal → List Char
  | .infinite s => signChars s ++ "Infinity".toList
  | .nan s signaling payload =>
    signChars s ++ (if signaling then "sNaN" else "NaN").toList ++
      (if payload = 0 then [] else Nat.toDigits 10 payload)
  | .finite s c e =>
    let digits := Nat.toDigits 10 c
    let adjusted := e + digits.length - 1
    signChars s ++
      if e ≤ 0 && -6 ≤ adjusted then withPoint digits (-e).toNat
      else scientific digits adjusted

def toText (a : Decimal) : String := .ofList a.toChars

/-- Puts a comma after every third of the digits, which come in reverse; the result, in order, ends
in `acc`. -/
def groupOnto : (reversed acc : List Char) → List Char
  | a :: b :: c :: d :: ds, acc => groupOnto (d :: ds) (',' :: c :: b :: a :: acc)
  | ds, acc => ds.reverse ++ acc

/-- Digits in groups of three, counted from the last. -/
def grouped (digits : List Char) : List Char := groupOnto digits.reverse []

/-- The form with grouped thousands and `places` places, of a number that has no more. -/
def toGrouped (places : Nat) : Decimal → List Char
  | .finite s c e =>
    let scaled := shiftLeft c (e + places).toNat / 10 ^ (-places - e).toNat
    let digits := (Nat.toDigits 10 scaled).leftpad (places + 1) '0'
    let whole := digits.length - places
    signChars s ++ grouped (digits.take whole) ++
      if places = 0 then [] else '.' :: digits.drop whole
  | a => a.toChars

end DatedMoney.Decimal
