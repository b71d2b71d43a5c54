import DatedMoney.Decimal.Context
/-! Sum, product, quotient and comparison of decimals, and rounding to a number of places. -/

namespace DatedMoney.Decimal

/-- The numbers to add, as signed coefficients at one exponent. -/
def signed (negative : Bool) (c : Nat) : Int := if negative then -c else c

/-- Removes up to `k` zeros from the end of `n`; returns how many, and what is left. -/
def dropZeros : (k n : Nat) → Nat × Nat
  | 0, n => (0, n)
  | k + 1, n =>
    if n % 10 = 0 then
      let (j, m) := dropZeros k (n / 10)
      (j + 1, m)
    else (0, n)

/-- Equality of value; a signaling `nan` cannot be compared. -/
def equal : Decimal → Decimal → Except Signal Bool
  | .nan _ true _, _ | _, .nan _ true _ => .error .invalidOperation
  | a, b => .ok (a.sameValue b)

namespace Context
variable (ctx : Context)

/-- The result that an operation has because an operand is not a number: a signaling operand
comes first, then the first quiet one. -/
def nanResult? : Decimal → Decimal → Option (Except Signal Decimal)
  | .nan _ true _, _ | _, .nan _ true _ => some (.error .invalidOperation)
  | .nan s false p, _ | _, .nan s false p => some (.ok (ctx.quiet s p))
  | _, _ => none

/-- A sum that comes out as zero is negative only if both operands are. -/
def addAt (s : Bool) (c : Nat) (s' : Bool) (c' : Nat) (e : Int) : Except Signal Decimal :=
  let n := signed s c + signed s' c'
  ctx.round (n < 0 || (n = 0 && s && s')) n.natAbs e

/-- The sum of two finite numbers, the second with the smaller exponent. When it lies far below
the last digit that can be kept of the first, all that matters of it is whether it is zero. -/
def addOrdered (s : Bool) (c : Nat) (e : Int) (s' : Bool) (c' : Nat) (e' : Int) :
    Except Signal Decimal :=
  if c ≠ 0 ∧ e' + digitCount c' + ctx.span ≤ e then
    ctx.addAt s (shiftLeft c ctx.span) s' (min 1 c') (e - ctx.span)
  else ctx.addAt s (shiftLeft c (e - e').toNat) s' c' e'

def add (a b : Decimal) : Except Signal Decimal :=
  match ctx.nanResult? a b with
  | some r => r
  | none =>
    match a, b with
    | .finite s c e, .finite s' c' e' =>
      if e' ≤ e then ctx.addOrdered s c e s' c' e' else ctx.addOrdered s' c' e' s c e
    | .infinite s, .infinite s' => if s = s' then .ok a else .error .invalidOperation
    | .infinite _, _ => .ok a
    | _, _ => .ok b

/-- The difference, as a sum with the second operand negated. What is not a number keeps its
sign. -/
def sub (a b : Decimal) : Except Signal Decimal :=
  match b with
  | .nan .. => ctx.add a b
  | _ => ctx.add a (-b)

def mul (a b : Decimal) : Except Signal Decimal :=
  match ctx.nanResult? a b with
  | some r => r
  | none =>
    match a, b with
    | .finite s c e, .finite s' c' e' => ctx.round (s ^^ s') (c * c') (e + e')
    | .infinite s, .infinite s' => .ok (.infinite (s ^^ s'))
    | .infinite s, .finite s' c _ | .finite s c _, .infinite s' =>
      if c = 0 then .error .invalidOperation else .ok (.infinite (s ^^ s'))
    | _, _ => .error .invalidOperation

/-- The quotient `c / c' * 10 ^ ideal` of positive coefficients. An exact quotient takes the
exponent nearest to `ideal` that it can. -/
def divFinite (negative : Bool) (c c' : Nat) (ideal : Int) : Except Signal Decimal :=
  let top := ideal + quotientTop c c'
  let cut := ctx.cut top
  if top < cut then .ok (ctx.zero negative cut)
  else
    let n := c * 10 ^ (ideal - cut).toNat
    let n' := c' * 10 ^ (cut - ideal).toNat
    if n % n' = 0 then
      let (k, q) := dropZeros (ideal - cut).toNat (n / n')
      ctx.settle negative q (cut + k)
    else ctx.settle negative (Tie.toEven.roundDiv n n') cut

def div (a b : Decimal) : Except Signal Decimal :=
  match ctx.nanResult? a b with
  | some r => r
  | none =>
    match a, b with
    | .finite s c e, .finite s' c' e' =>
      if c' = 0 then .error (if c = 0 then .invalidOperation else .divisionByZero)
      else if c = 0 then .ok (ctx.zero (s ^^ s') (e - e'))
      else ctx.divFinite (s ^^ s') c c' (e - e')
    | .infinite s, .finite s' _ _ => .ok (.infinite (s ^^ s'))
    | .finite s _ _, .infinite s' => .ok (ctx.zero (s ^^ s') ctx.etiny)
    | _, _ => .error .invalidOperation

/-- The number rounded to `places` decimal places. It has no result if that takes more digits than
the context has. -/
def toPlaces (tie : Tie) (places : Nat) : Decimal → Except Signal Decimal
  | .nan _ true _ | .infinite _ => .error .invalidOperation
  | .nan s false p => .ok (ctx.quiet s p)
  | .finite s c e =>
    if c = 0 then .ok (.finite s 0 (-places))
    else if -places ≤ e then
      let k := (e + places).toNat
      if ctx.precision < digitCount c + k then .error .invalidOperation
      else .ok (.finite s (c * 10 ^ k) (-places))
    else
      let k := (-places - e).toNat
      let q := if digitCount c < k then 0 else tie.roundDiv c (10 ^ k)
      if 10 ^ ctx.precision ≤ q then .error .invalidOperation
      else .ok (.finite s q (-places))

end Context

/-- Rounded to cents, half away from zero. -/
def toCents (a : Decimal) : Except Signal Decimal :=
  Context.money.toPlaces .away 2 a

end DatedMoney.Decimal
