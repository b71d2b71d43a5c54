import DatedMoney.Decimal.Arithmetic
import DatedMoney.Decimal.Hash
import DatedMoney.Error
import DatedMoney.Value
/-! Equality of values. Amounts are compared as numbers, all else as it stands. -/

namespace DatedMoney

/-- What is left open about hashes: that of an object by its origin, and how the hash of an amount
is combined with all else. -/
structure Hashing where
  ofOrigin : Nat → Int
  combine : Int → Currency → Date → Option Provenance → Int

namespace Value

/-- Whether two values are equal. An amount is `shared` if it is one and the same in both; then it
is equal to itself even if it is not a number. -/
def equal (shared : Bool) (v w : Value) : Except Signal Bool := do
  let amounts ← if shared then pure true else Decimal.equal v.amount w.amount
  return amounts && v.currency = w.currency && v.date = w.date && v.provenance = w.provenance

/-- The hash of a value whose amount has an origin. A value with a signaling amount has none. -/
def hash? (h : Hashing) (origin : Nat) (v : Value) : Option Int :=
  (v.amount.hash? (h.ofOrigin origin)).map (h.combine · v.currency v.date v.provenance)

/-- How many members the set of two values has, whose amounts have the given origins. Only values of
the same hash are compared. -/
def countDistinct (h : Hashing) (origin origin' : Nat) (v w : Value) : Except Error Nat :=
  match v.hash? h origin, w.hash? h origin' with
  | some hash, some hash' =>
    if hash = hash' then
      return if ← signaled (equal (origin = origin') v w) then 1 else 2
    else .ok 2
  | _, _ => .error .unsuitable

end Value
end DatedMoney
