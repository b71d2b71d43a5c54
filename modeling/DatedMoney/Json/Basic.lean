import DatedMoney.Binary64
/-! JSON values. Integers are exact; a number with a fraction or an exponent is the nearest binary
floating-point number. -/

namespace DatedMoney

/-- Whether a code is half of a surrogate pair. -/
def JsonText.isHalf (code : Nat) : Bool := 0xd800 ≤ code && code < 0xe000

/-- The members of an object are in the order of their first occurrence. -/
inductive Json where
  | null
  | bool (b : Bool)
  | int (n : Int)
  | float (x : Binary64)
  | string (s : String)
  /-- A string that is no text: half of a surrogate pair stands alone among its codes. -/
  | halved (codes : List Nat) (half : codes.any JsonText.isHalf)
  | array (xs : List Json)
  | object (members : List (String × Json))

namespace Json

instance : Inhabited Json := ⟨.null⟩

/-- The member of an object with a name. -/
def field? (name : String) : Json → Option Json
  | .object members => members.lookup name
  | _ => none

/-- The member of an object with a name; what is absent is null. -/
def field (name : String) (j : Json) : Json := (j.field? name).getD .null

def ofOption (f : α → Json) : Option α → Json
  | some a => f a
  | none => .null

/-- The whole number that a value is equal to: true is one, false is zero. -/
def whole? : Json → Option Int
  | .int n => some n
  | .bool b => some (if b then 1 else 0)
  | .float x => if x.isWhole then x.truncate? else none
  | _ => none

def ofInt? : Option Int → Json := ofOption .int

mutual

/-- Whether all values inside a value, other than arrays and objects, meet a condition. -/
def everyLeaf (p : Json → Bool) : Json → Bool
  | .array xs => everyItem p xs
  | .object members => everyMember p members
  | j => p j

def everyItem (p : Json → Bool) : List Json → Bool
  | [] => true
  | x :: xs => x.everyLeaf p && everyItem p xs

def everyMember (p : Json → Bool) : List (String × Json) → Bool
  | [] => true
  | (_, x) :: members => x.everyLeaf p && everyMember p members

end

end Json

/-- A JSON string, which need not be a text. -/
inductive JsonText where
  | text (s : String)
  | halved (codes : List Nat) (half : codes.any JsonText.isHalf)
deriving DecidableEq, Repr

namespace JsonText

/-- The character of a code. Half of a surrogate pair has none, and the replacement character stands
for it. -/
def charOf (code : Nat) : Char := if isHalf code then '\ufffd' else .ofNat code

def ofCodes (codes : List Nat) : JsonText :=
  if h : codes.any isHalf then .halved codes h else .text (.ofList (codes.map charOf))

def toJson : JsonText → Json
  | text s => .string s
  | halved codes half => .halved codes half

/-- The text that is nearest to a string. -/
def nearest : JsonText → String
  | text s => s
  | halved codes _ => .ofList (codes.map charOf)

end JsonText
end DatedMoney
