import DatedMoney.Text.Numeral
/-! Dates of money: a year, a month of a year, or a day of a month. All years and months have the
same range of days. -/

namespace DatedMoney

/-- An integer between two bounds. -/
structure Bounded (low high : Int) where
  val : Int
  low_le : low ≤ val
  le_high : val ≤ high
deriving DecidableEq, Repr

def Bounded.ofInt? (n : Int) : Option (Bounded low high) :=
  if h : low ≤ n ∧ n ≤ high then some ⟨n, h.1, h.2⟩ else none

abbrev Month := Bounded 1 12
abbrev Day := Bounded 1 31

inductive Date where
  | yearly (y : Int)
  | monthly (y : Int) (m : Month)
  | daily (y : Int) (m : Month) (d : Day)
deriving DecidableEq, Repr

namespace Date

def year : Date → Int
  | yearly y | monthly y _ | daily y _ _ => y

def month? : Date → Option Month
  | yearly _ => none
  | monthly _ m | daily _ m _ => some m

def day? : Date → Option Day
  | daily _ _ d => some d
  | _ => none

/-- There is no day without a month. -/
def ofParts? (y : Int) : Option Month → Option Day → Option Date
  | none, none => some (yearly y)
  | some m, none => some (monthly y m)
  | some m, some d => some (daily y m d)
  | none, some _ => none

@[simp] theorem ofParts?_parts (d : Date) : ofParts? d.year d.month? d.day? = some d := by
  cases d <;> rfl

/-- Four places for the year and two for the month and the day, in as far as they are given. A day
without a month is left out. -/
def partsToChars (y : Int) (m? d? : Option Int) : List Char :=
  Text.intPadded 4 y ++
    match m?, d? with
    | none, _ => []
    | some m, none => '-' :: Text.intPadded 2 m
    | some m, some d => '-' :: Text.intPadded 2 m ++ '-' :: Text.intPadded 2 d

def toChars (date : Date) : List Char :=
  partsToChars date.year (date.month?.map (·.val)) (date.day?.map (·.val))

end Date
end DatedMoney
