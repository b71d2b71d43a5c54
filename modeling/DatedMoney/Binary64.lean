import DatedMoney.Decimal.Context
import DatedMoney.Decimal.Printer
/-! Binary floating-point numbers of 64 bits: the one nearest to a decimal, and the shortest decimal
that is nearest to it. -/

namespace DatedMoney

/-- `finite s m e` is `m * 2 ^ e`, negated if `s`. The mantissa has 53 bits, or fewer if the
exponent is -1074. -/
inductive Binary64 where
  | finite (negative : Bool) (mantissa : Nat) (exponent : Int)
  | infinite (negative : Bool)
  | nan
deriving DecidableEq, Repr

namespace Binary64

/-- The number nearest to `n / d`, half to even. -/
def ofRatio (negative : Bool) (n d : Nat) : Binary64 :=
  let bits : Int := n.log2 - d.log2
  let low := n * 2 ^ (-bits).toNat < d * 2 ^ bits.toNat
  let e := max (bits - (if low then 53 else 52)) (-1074)
  let m := Tie.toEven.roundDiv (n * 2 ^ (-e).toNat) (d * 2 ^ e.toNat)
  let (m, e) := if m = 2 ^ 53 then (2 ^ 52, e + 1) else (m, e)
  if 971 < e then .infinite negative else .finite negative m e

/-- The number nearest to `c * 10 ^ e`. Beyond the first 400 places on either side of the point all
numbers are infinite or zero. -/
def ofDecimal (negative : Bool) (c : Nat) (e : Int) : Binary64 :=
  let top := e + Decimal.digitCount c
  if c = 0 || top < -400 then .finite negative 0 (-1074)
  else if 400 < top then .infinite negative
  else ofRatio negative (c * 10 ^ e.toNat) (10 ^ (-e).toNat)

/-- Whether `c * 10 ^ k` lies among the numbers that round to `m * 2 ^ e`. In units of a quarter of
`2 ^ e` these reach from `4 * m - 2` to `4 * m + 2`, ends included if `m` is even; below a power of
two the next number is half as far. -/
def isNearest (m : Nat) (e : Int) (c : Nat) (k : Int) : Bool :=
  let x := c * 10 ^ k.toNat * 4 * 2 ^ (-e).toNat
  let unit := 10 ^ (-k).toNat * 2 ^ e.toNat
  let low := (4 * m - if m = 2 ^ 52 && e ≠ -1074 then 1 else 2) * unit
  let high := (4 * m + 2) * unit
  if m % 2 = 0 then low ≤ x && x ≤ high else low < x && x < high

/-- Of the two multiples of `10 ^ k` around `m * 2 ^ e`, the one that rounds to it; of two that do,
the nearer. -/
def onGrid? (m : Nat) (e k : Int) : Option Nat :=
  let n := m * 2 ^ e.toNat * 10 ^ (-k).toNat
  let d := 2 ^ (-e).toNat * 10 ^ k.toNat
  let c := n / d
  match isNearest m e c k, isNearest m e (c + 1) k with
  | true, true => some (Tie.toEven.roundDiv n d)
  | true, false => some c
  | false, true => some (c + 1)
  | false, false => none

/-- The first of the grids `10 ^ k`, `10 ^ (k - 1)`, … with a decimal that rounds to `m * 2 ^ e`. -/
def coarsest (m : Nat) (e : Int) : (fuel : Nat) → (k : Int) → Nat × Int
  | 0, k => (0, k)
  | fuel + 1, k =>
    match onGrid? m e k with
    | some c => if c = 10 then (1, k + 1) else (c, k)
    | none => coarsest m e fuel (k - 1)

/-- The digits of the shortest decimal that rounds to the positive number `m * 2 ^ e`, and the
exponent of its last digit. Seventeen digits always suffice. -/
def shortest (m : Nat) (e : Int) : Nat × Int :=
  let top := Decimal.quotientTop (m * 2 ^ e.toNat) (2 ^ (-e).toNat)
  coarsest m e 17 (top - 1)

/-- The number as text. Whole numbers show a zero after the point; from `10 ^ 16` on and below
`10 ^ -4` the exponent is shown, with two digits or more. -/
def toChars : Binary64 → List Char
  | .nan => "nan".toList
  | .infinite s => Decimal.signChars s ++ "inf".toList
  | .finite s m e =>
    let (c, k) := if m = 0 then (0, 0) else shortest m e
    let digits := Nat.toDigits 10 c
    let adjusted := k + digits.length - 1
    Decimal.signChars s ++
      if -4 ≤ adjusted && adjusted < 16 then
        if 0 ≤ k then digits ++ List.replicate k.toNat '0' ++ ['.', '0']
        else Decimal.withPoint digits (-k).toNat
      else
        let mantissa := match digits with
          | d :: d' :: ds => d :: '.' :: d' :: ds
          | ds => ds
        let sign := if adjusted < 0 then '-' else '+'
        mantissa ++ 'e' :: sign :: (Nat.toDigits 10 adjusted.natAbs).leftpad 2 '0'

/-- The part before the point. -/
def truncate? : Binary64 → Option Int
  | .finite s m e =>
    let n := m * 2 ^ e.toNat / 2 ^ (-e).toNat
    some (if s then -n else n)
  | _ => none

/-- A finite number as a fraction. -/
def fraction? : Binary64 → Option (Int × Nat)
  | .finite s m e =>
    let n := m * 2 ^ e.toNat
    some (if s then -n else n, 2 ^ (-e).toNat)
  | _ => none

/-- Whether the number is greater than `n`. Nothing is said of what is not a number. -/
def exceeds (x : Binary64) (n : Int) : Bool :=
  match x, x.fraction? with
  | .infinite s, _ => !s
  | _, some (k, d) => n * d < k
  | _, none => false

/-- The number less `n`, where `n` is rounded before and the difference after. -/
def subInt (x : Binary64) (n : Int) : Binary64 :=
  let round (k : Int) (d : Nat) : Binary64 :=
    if k = 0 then .finite false 0 (-1074) else ofRatio (k < 0) k.natAbs d
  match x.fraction?, (round n 1).fraction? with
  | some (k, d), some (k', d') => round (k * d' - k' * d) (d * d')
  | _, _ => .nan

/-- Removes up to `k` factors of two from `n`; returns how many are left to remove, and what is
left of `n`. -/
def halve : (k n : Nat) → Nat × Nat
  | 0, n => (0, n)
  | k + 1, n => if n % 2 = 0 then halve k (n / 2) else (k + 1, n)

/-- The decimal of exactly the same value, with no more places than it needs. -/
def toDecimal : Binary64 → Decimal
  | .nan => .nan false false 0
  | .infinite s => .infinite s
  | .finite s m e =>
    let (k, n) := halve (-e).toNat (m * 2 ^ e.toNat)
    .finite s (n * 5 ^ k) (-k)

/-- Whether a finite number is whole. -/
def isWhole : Binary64 → Bool
  | .finite _ m e => m % 2 ^ (-e).toNat = 0
  | _ => false

end Binary64
end DatedMoney
