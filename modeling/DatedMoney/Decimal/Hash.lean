import DatedMoney.Decimal.Basic
/-! Hashes of decimals, which are hashes of the numbers that they denote, whatever their digits. -/

namespace DatedMoney.Decimal

/-- Numbers are hashed up to multiples of this prime. -/
def hashPrime : Nat := 2 ^ 61 - 1

/-- Ten times this number is one, up to multiples of the prime. -/
def hashTenth : Nat := 2075258708292324556

/-- `b ^ n`, up to multiples of the prime. -/
def hashPower (b n : Nat) : Nat :=
  if n = 0 then 1
  else
    let root := hashPower (b * b % hashPrime) (n / 2)
    if n % 2 = 0 then root else b * root % hashPrime

/-- The hash of a number. What is not a number is equal at most to itself, and has the hash of its
`identity`; a signaling one has none. -/
def hash? (identity : Int) : Decimal → Option Int
  | .finite s c e =>
    let power := hashPower (if e < 0 then hashTenth else 10) e.natAbs
    let n : Int := c * power % hashPrime
    let hash := if s then -n else n
    some (if hash = -1 then -2 else hash)
  | .infinite s => some (if s then -314159 else 314159)
  | .nan _ signaling _ => if signaling then none else some identity

end DatedMoney.Decimal
