import DatedMoney.Error
import DatedMoney.Value
/-! Single fields of given data. What is not of the type that a field wants is taken as if it were,
where nothing is lost by it. -/

namespace DatedMoney.Checking

/-- The longest text that is read as an integer, in characters. -/
def maxIntegerText : Nat := 4300

def int : Json → Except Complaint Int
  | .int n => .ok n
  | .bool b => .ok (if b then 1 else 0)
  | .float x =>
    match x.truncate? with
    | none => .error .notFinite
    | some n =>
      if !x.isWhole then .error .fractionalInteger
      else if -2 ^ 63 ≤ n ∧ n < 2 ^ 63 then .ok n
      else .error .oversizedInteger
  | .string s =>
    match Text.readWhole? s with
    | none => .error .unreadableInteger
    | some n => if s.length ≤ maxIntegerText then .ok n else .error .oversizedInteger
  | .halved .. => .error .unreadableInteger
  | _ => .error .notAnInteger

def bounded (low high : Int) (given : Json) : Except Complaint (Bounded low high) := do
  let n ← int given
  if h : low ≤ n then
    if h' : n ≤ high then return ⟨n, h, h'⟩ else throw (.above high)
  else throw (.below low)

/-- A field that may be null. -/
def optional (check : Json → Except Complaint α) : Json → Except Complaint (Option α)
  | .null => .ok none
  | given => return some (← check given)

@[simp] theorem bounded_val (b : Bounded low high) : bounded low high (.int b.val) = .ok b := by
  simp only [bounded, int, bind, Except.bind, b.low_le, b.le_high, dite_true]
  rfl

@[simp] theorem optional_ofInt? (b? : Option (Bounded low high)) :
    optional (bounded low high) (Json.ofInt? (b?.map (·.val))) = .ok b? := by
  cases b? with
  | none => rfl
  | some b => simp [Json.ofInt?, Json.ofOption, optional, bind, Except.bind, pure, Except.pure]

/-- A field that must be there. -/
def required (check : Json → Except Complaint α) : Option Json → Except Complaint α
  | some given => check given
  | none => .error .absent

/-- A string, which need not be a text. -/
def string : Json → Except Complaint JsonText
  | .string s => .ok (.text s)
  | .halved codes half => .ok (.halved codes half)
  | _ => .error .notText

def nonemptyText : Json → Except Complaint { s : String // s ≠ "" }
  | .string s => if h : s ≠ "" then .ok ⟨s, h⟩ else .error .emptyText
  | .halved .. => .error .notUnicode
  | _ => .error .notText

def currency : Json → Except Complaint Currency
  | .string s =>
    match Currency.ofCode? s with
    | some c => .ok c
    | none => .error .notACurrency
  | _ => .error .notACurrency

@[simp] theorem currency_code (c : Currency) : currency (.string c.code) = .ok c := by
  simp [currency]

/-- The currency that data name. -/
def namedCurrency (given : Json) : Except Error Currency :=
  (currency given).mapError fun _ =>
    (given.displayInner.map fun cs => .notACurrency (.ofList cs)).getD .tooManyDigits

def finite (a : Decimal) : Except Complaint Decimal :=
  if a.isFinite then .ok a else .error .notFinite

end DatedMoney.Checking
