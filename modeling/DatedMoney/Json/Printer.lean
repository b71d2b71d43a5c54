import DatedMoney.Json.Basic
import DatedMoney.Text.Numeral
import DatedMoney.Text.Quoted
/-! JSON values as text: the JSON text itself, and the display form that appears inside messages. -/

namespace DatedMoney.Json

/-- A code as four digits in base sixteen, after a backslash. -/
def escapeCode (code : Nat) : List Char := '\\' :: 'u' :: Text.hexPadded 4 code

/-- A character between the quotes of a JSON string. -/
def escapeChar (c : Char) : List Char :=
  if c = '"' || c = '\\' then ['\\', c]
  else if c.toNat < 0x20 then escapeCode c.toNat
  else [c]

def stringChars (s : String) : List Char := '"' :: s.toList.flatMap escapeChar ++ ['"']

def halvedChars (codes : List Nat) : List Char :=
  let escaped (code : Nat) :=
    if JsonText.isHalf code then escapeCode code else escapeChar (JsonText.charOf code)
  '"' :: codes.flatMap escaped ++ ['"']

def floatChars : Binary64 → List Char
  | .infinite s => Decimal.signChars s ++ "Infinity".toList
  | .nan => "NaN".toList
  | x => x.toChars

mutual

def toChars : Json → List Char
  | .null => "null".toList
  | .bool b => (if b then "true" else "false").toList
  | .int n => Text.intPadded 0 n
  | .float x => floatChars x
  | .string s => stringChars s
  | .halved codes _ => halvedChars codes
  | .array xs => '[' :: arrayChars xs
  | .object members => '\x7b' :: memberChars members

def arrayChars : List Json → List Char
  | [] => [']']
  | [x] => x.toChars ++ [']']
  | x :: xs => x.toChars ++ ',' :: arrayChars xs

def memberChars : List (String × Json) → List Char
  | [] => ['\x7d']
  | [(k, x)] => stringChars k ++ ':' :: x.toChars ++ ['\x7d']
  | (k, x) :: members => stringChars k ++ ':' :: x.toChars ++ ',' :: memberChars members

end

def toText (j : Json) : String := .ofList j.toChars

/-- A string that is no text, between quotes. -/
def quotedHalved (codes : List Nat) : List Char :=
  let quote := Text.quoteMark (codes.map JsonText.charOf)
  let escaped (code : Nat) :=
    if JsonText.isHalf code then escapeCode code else Text.escape quote (JsonText.charOf code)
  quote :: codes.flatMap escaped ++ [quote]

/-! An integer of too many digits is not displayed, nor is anything that contains one. -/

mutual

/-- A value inside a displayed one: strings stand between quotes. -/
def displayInner : Json → Option (List Char)
  | .null => some "None".toList
  | .bool b => some (if b then "True" else "False").toList
  | .int n => if Text.isShort n then some (Text.intPadded 0 n) else none
  | .float x => some x.toChars
  | .string s => some (Text.quoted s.toList)
  | .halved codes _ => some (quotedHalved codes)
  | .array xs => return '[' :: (← displayItems xs)
  | .object members => return '\x7b' :: (← displayMembers members)

def displayItems : List Json → Option (List Char)
  | [] => some [']']
  | [x] => return (← x.displayInner) ++ [']']
  | x :: xs => return (← x.displayInner) ++ ',' :: ' ' :: (← displayItems xs)

def displayMembers : List (String × Json) → Option (List Char)
  | [] => some ['\x7d']
  | [(k, x)] => return Text.quoted k.toList ++ ':' :: ' ' :: (← x.displayInner) ++ ['\x7d']
  | (k, x) :: members =>
    return Text.quoted k.toList ++ ':' :: ' ' :: (← x.displayInner) ++
      ',' :: ' ' :: (← displayMembers members)

end

/-- The value as a reader of a message sees it; a string is its own text, or the nearest one. -/
def display? : Json → Option String
  | .string s => some s
  | .halved codes half => some (JsonText.halved codes half).nearest
  | j => .ofList <$> j.displayInner

theorem display?_int (n : Int) :
    (Json.int n).display? = if Text.isShort n then some (Text.ofInt n) else none := by
  change String.ofList <$> (int n).displayInner = _
  rw [displayInner]
  split <;> rfl

end DatedMoney.Json
