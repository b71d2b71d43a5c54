import DatedMoney.Text.Blank
import DatedMoney.Text.DecimalDigit
/-! Whole numbers as text. -/

namespace DatedMoney.Text

/-- An integer with zeros up to `width` characters; the sign is one of them. -/
def intPadded (width : Nat) (n : Int) : List Char :=
  let digits := Nat.toDigits 10 n.natAbs
  if n < 0 then '-' :: digits.leftpad (width - 1) '0' else digits.leftpad width '0'

def ofInt (n : Int) : String := .ofList (intPadded 0 n)

/-- The most digits of an integer that is written, or read from text. -/
def maxDigits : Nat := 4300

/-- Whether an integer has few enough digits to be written. No longer one has a text. -/
def isShort (n : Int) : Bool := (Nat.toDigits 10 n.natAbs).length ≤ maxDigits

/-- Why an integer is not written, or, if a text has so many digits, not read. -/
def tooManyDigits (count? : Option Nat) : String :=
  let value := (count?.map fun count => s!": value has {count} digits").getD ""
  s!"Exceeds the limit ({maxDigits} digits) for integer string conversion" ++ value ++
    "; use sys.set_int_max_str_digits() to increase the limit"

/-- The number that follows `acc` in a row of digits. A single underscore may stand between two
digits. -/
def moreDigits? (value? : Char → Option Nat) : (acc : Nat) → List Char → Option Nat
  | acc, [] => some acc
  | acc, '_' :: c :: cs => do moreDigits? value? (10 * acc + (← value? c)) cs
  | acc, c :: cs => do moreDigits? value? (10 * acc + (← value? c)) cs

def digitRow? (value? : Char → Option Nat) : List Char → Option Nat
  | [] => none
  | c :: cs => do moreDigits? value? (← value? c) cs

/-- A row of digits after an optional sign. -/
def signedRow? (value? : Char → Option Nat) : List Char → Option Int
  | '-' :: cs => (digitRow? value? cs).map (-Int.ofNat ·)
  | '+' :: cs => (digitRow? value? cs).map Int.ofNat
  | cs => (digitRow? value? cs).map Int.ofNat

/-- Text without the blanks around it, those of ASCII only as far as they are plain. -/
def trimmed (s : String) : List Char :=
  strip (fun c => isPlainBlank c || (128 ≤ c.toNat && isBlank c)) s.toList

/-- How many digits stand in the row that a text begins with. -/
def digitsInRow (s : String) : Nat :=
  let unsigned := (trimmed s).dropWhile fun c => c = '-' || c = '+'
  (unsigned.takeWhile fun c => (digitValue? c).isSome || c = '_').countP (· ≠ '_')

/-- Reads an integer in the digits of any script, with blanks around it. There must not be too many
digits. -/
def readInt? (s : String) : Option Int :=
  if maxDigits < digitsInRow s then none else signedRow? digitValue? (trimmed s)

/-- The ASCII digits only. -/
def plainDigitValue? (c : Char) : Option Nat :=
  if isDigit c then some (c.toNat - 48) else none

/-- Reads an integer in ASCII digits, with plain blanks around it. A fraction may follow if it
consists of zeros. -/
def readWhole? (s : String) : Option Int :=
  let cs := strip isPlainBlank s.toList
  match cs.dropWhile (· ≠ '.') with
  | [] => signedRow? plainDigitValue? cs
  | _ :: fraction =>
    if fraction ≠ [] && fraction.all (· = '0') then
      signedRow? plainDigitValue? (cs.takeWhile (· ≠ '.'))
    else none

end DatedMoney.Text
