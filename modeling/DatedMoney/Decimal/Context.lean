import DatedMoney.Decimal.Basic
/-! Rounding. The exact result of an operation is rounded once, to the digits and the exponents
that a context allows. -/

namespace DatedMoney

/-- Why an operation on decimals has no result. -/
inductive Signal where
  | invalidOperation
  | divisionByZero
  | overflow
deriving DecidableEq, Repr

/-- Where a quotient goes that lies exactly between two whole numbers. -/
inductive Tie where
  | toEven
  | away
deriving DecidableEq, Repr

/-- The whole number nearest to `n / d`. -/
def Tie.roundDiv (tie : Tie) (n d : Nat) : Nat :=
  let q := n / d
  let r := n % d
  if 2 * r < d then q
  else if d < 2 * r then q + 1
  else match tie with
    | .toEven => if q % 2 = 0 then q else q + 1
    | .away => q + 1

namespace Decimal

/-- A finite result has at most `precision` digits; its leading digit stands at an exponent of at
most `emax`, and one whose leading digit stands below `emin` loses digits. -/
structure Context where
  precision : Nat
  emin : Int
  emax : Int
deriving DecidableEq, Repr

namespace Context

/-- The context of all money arithmetic. -/
def money : Context := ⟨28, -999999, 999999⟩

/-- The least exponent that a rounded number has. -/
def etiny (ctx : Context) : Int := ctx.emin - (ctx.precision - 1)

/-- No two numbers within the limits have exponents further apart than this. -/
def span (ctx : Context) : Nat := (ctx.emax - ctx.etiny).toNat

/-- A coefficient that rounding has carried to one digit too many loses its last zero. -/
def settle (ctx : Context) (negative : Bool) (c : Nat) (e : Int) : Except Signal Decimal :=
  let (c, e) := if c = 10 ^ ctx.precision then (10 ^ (ctx.precision - 1), e + 1) else (c, e)
  if ctx.emax < e + digitCount c - 1 then .error .overflow else .ok (.finite negative c e)

/-- A zero keeps its exponent as far as the limits allow. -/
def zero (ctx : Context) (negative : Bool) (e : Int) : Decimal :=
  .finite negative 0 (max ctx.etiny (min ctx.emax e))

/-- The exponent of the last digit that is kept of a number below `10 ^ top`. -/
def cut (ctx : Context) (top : Int) : Int := max (top - ctx.precision) ctx.etiny

/-- The number `c * 10 ^ e`, negated if `negative`, rounded to the context, half to even. -/
def round (ctx : Context) (negative : Bool) (c : Nat) (e : Int) : Except Signal Decimal :=
  if c = 0 then .ok (ctx.zero negative e)
  else
    let top := e + digitCount c
    let cut := ctx.cut top
    if cut ≤ e then ctx.settle negative c e
    else if top < cut then .ok (ctx.zero negative cut)
    else ctx.settle negative (Tie.toEven.roundDiv c (10 ^ (cut - e).toNat)) cut

/-- What a `nan` becomes when it goes through an operation: its payload keeps as many digits as a
coefficient may have. -/
def quiet (ctx : Context) (negative : Bool) (payload : Nat) : Decimal :=
  .nan negative false (payload % 10 ^ ctx.precision)

end Context
end Decimal
end DatedMoney
