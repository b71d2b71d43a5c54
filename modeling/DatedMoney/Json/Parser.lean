import DatedMoney.Dictionary
import DatedMoney.Json.Basic
import DatedMoney.Text.Numeral
/-! JSON values from text. Each reader takes the text from where it stands, and answers what it has
read and the text after it. -/

namespace DatedMoney.Json

/-- Why a text is not read. The first that comes up from left to right counts. -/
inductive Unreadable where
  | malformed
  /-- An integer has more digits than are read. -/
  | tooManyDigits
  /-- Arrays and objects stand inside each other more deeply than there is room for. -/
  | tooDeep
deriving DecidableEq, Repr

/-- A reader whose only complaint is that the text is malformed. -/
def wellFormed (r : Option α) : Except Unreadable α := r.elim (.error .malformed) .ok

def isSpace (c : Char) : Bool := c = ' ' || c = '\t' || c = '\n' || c = '\r'

def skipSpace (cs : List Char) : List Char := cs.dropWhile isSpace

def hexValue? (c : Char) : Option Nat :=
  if Text.isDigit c then some (c.toNat - 48)
  else if 'a' ≤ c && c ≤ 'f' then some (c.toNat - 87)
  else if 'A' ≤ c && c ≤ 'F' then some (c.toNat - 55)
  else none

/-- The character that a backslash and `c` stand for. -/
def unescape? : Char → Option Char
  | '"' => some '"'
  | '\\' => some '\\'
  | '/' => some '/'
  | 'b' => some '\x08'
  | 'f' => some '\x0c'
  | 'n' => some '\n'
  | 'r' => some '\r'
  | 't' => some '\t'
  | _ => none

/-- Two escapes that name the halves of a surrogate pair are one code. -/
def joinHalves : List Nat → List Nat
  | high :: low :: codes =>
    if 0xd800 ≤ high && high < 0xdc00 && 0xdc00 ≤ low && low < 0xe000 then
      (0x10000 + (high - 0xd800) * 0x400 + (low - 0xdc00)) :: joinHalves codes
    else high :: joinHalves (low :: codes)
  | codes => codes

/-- The codes of a string up to its closing quote, after those in `reversed`. -/
def codes? (reversed : List Nat) : List Char → Option (List Nat × List Char)
  | '"' :: cs => some (reversed.reverse, cs)
  | '\\' :: 'u' :: a :: b :: c :: d :: cs => do
    let code := 4096 * (← hexValue? a) + 256 * (← hexValue? b) + 16 * (← hexValue? c)
      + (← hexValue? d)
    codes? (code :: reversed) cs
  | '\\' :: c :: cs => do codes? ((← unescape? c).toNat :: reversed) cs
  | c :: cs => if c.toNat < 0x20 then none else codes? (c.toNat :: reversed) cs
  | [] => none

/-- The rest of a string, after its opening quote. -/
def readString (cs : List Char) : Except Unreadable (JsonText × List Char) :=
  wellFormed <| (codes? [] cs).map fun (codes, cs) => (.ofCodes (joinHalves codes), cs)

/-- The digits that a text begins with, and the text after them. -/
def splitDigits (cs : List Char) : List Char × List Char :=
  (cs.takeWhile Text.isDigit, cs.dropWhile Text.isDigit)

/-- The digits after a point. A point that no digit follows does not belong to the number. -/
def fraction (cs : List Char) : List Char × List Char :=
  match cs with
  | '.' :: rest =>
    match splitDigits rest with
    | ([], _) => ([], cs)
    | r => r
  | cs => ([], cs)

/-- The exponent after an `e`, which does not belong to the number either if no digit follows. -/
def exponent? (cs : List Char) : Option Int × List Char :=
  let after (sign : Int) (rest : List Char) :=
    match splitDigits rest with
    | ([], _) => (none, cs)
    | (digits, rest) => (some (sign * Nat.ofDigitChars 10 digits 0), rest)
  match cs with
  | 'e' :: '-' :: rest | 'E' :: '-' :: rest => after (-1) rest
  | 'e' :: '+' :: rest | 'E' :: '+' :: rest | 'e' :: rest | 'E' :: rest => after 1 rest
  | cs => (none, cs)

/-- A number without its sign. No zero stands before another digit. -/
def readNumber (negative : Bool) (cs : List Char) : Except Unreadable (Json × List Char) :=
  let (whole, cs) := splitDigits cs
  if whole = [] ∨ whole.head? = some '0' ∧ whole ≠ ['0'] then .error .malformed
  else
    let (fraction, cs) := fraction cs
    let (exponent?, cs) := exponent? cs
    let n := Nat.ofDigitChars 10 (whole ++ fraction) 0
    match fraction, exponent? with
    | [], none =>
      if Text.maxDigits < whole.length then .error .tooManyDigits
      else .ok (.int (if negative then -n else n), cs)
    | fraction, exponent? =>
      .ok (.float (.ofDecimal negative n (exponent?.getD 0 - fraction.length)), cs)

/-- The values that are words. -/
def words : List (String × Json) := [
  ("null", .null), ("true", .bool true), ("false", .bool false), ("NaN", .float .nan),
  ("Infinity", .float (.infinite false)), ("-Infinity", .float (.infinite true))]

def word? (cs : List Char) : Option (Json × List Char) :=
  words.findSome? fun (w, j) =>
    if w.toList.isPrefixOf cs then some (j, cs.drop w.length) else none

/-- Of two members of one name the later counts, in the place of the earlier. A name that is no text
stands beside its value, under the nearest text. -/
def putMember (name : JsonText) (j : Json) (members : List (String × Json)) :
    List (String × Json) :=
  Dictionary.put name.nearest
    (match name with
    | .text _ => j
    | .halved codes half => .array [.halved codes half, j])
    members

/-! The depth of a value and the number of its items are below the length of its text, so `fuel`
for one step per character is enough. Arrays and objects stand inside each other up to `depth`. -/

mutual

def readValue : (fuel depth : Nat) → List Char → Except Unreadable (Json × List Char)
  | 0, _, _ => .error .malformed
  | fuel + 1, depth, cs =>
    match skipSpace cs with
    | '"' :: cs => do
      let (s, cs) ← readString cs
      return (s.toJson, cs)
    | '[' :: cs =>
      if depth = 0 then .error .tooDeep
      else
        match skipSpace cs with
        | ']' :: cs => .ok (.array [], cs)
        | cs => readItems fuel (depth - 1) [] cs
    | '\x7b' :: cs =>
      if depth = 0 then .error .tooDeep
      else
        match skipSpace cs with
        | '\x7d' :: cs => .ok (.object [], cs)
        | cs => readMembers fuel (depth - 1) [] cs
    | cs =>
      match word? cs, cs with
      | some r, _ => .ok r
      | none, '-' :: cs => readNumber true cs
      | none, cs => readNumber false cs

/-- The items of an array, after those in `reversed`. -/
def readItems : (fuel depth : Nat) → (reversed : List Json) → List Char →
    Except Unreadable (Json × List Char)
  | 0, _, _, _ => .error .malformed
  | fuel + 1, depth, reversed, cs => do
    let (x, cs) ← readValue fuel depth cs
    match skipSpace cs with
    | ',' :: cs => readItems fuel depth (x :: reversed) cs
    | ']' :: cs => .ok (.array (x :: reversed).reverse, cs)
    | _ => .error .malformed

/-- The members of an object, after those in `before`. -/
def readMembers : (fuel depth : Nat) → (before : List (String × Json)) → List Char →
    Except Unreadable (Json × List Char)
  | 0, _, _, _ => .error .malformed
  | fuel + 1, depth, before, cs =>
    match skipSpace cs with
    | '"' :: cs => do
      let (name, cs) ← readString cs
      match skipSpace cs with
      | ':' :: cs =>
        let (x, cs) ← readValue fuel depth cs
        let before := putMember name x before
        match skipSpace cs with
        | ',' :: cs => readMembers fuel depth before cs
        | '\x7d' :: cs => .ok (.object before, cs)
        | _ => .error .malformed
      | _ => .error .malformed
    | _ => .error .malformed

end

/-- Reads a whole text as one value. -/
def read (depth : Nat) (s : String) : Except Unreadable Json := do
  let cs := s.toList
  let (j, cs) ← readValue (cs.length + 1) depth cs
  if skipSpace cs = [] then return j else throw .malformed

end DatedMoney.Json
