/-! Decimal numbers of unlimited length. A finite number keeps its coefficient and exponent apart,
so that `1.00` and `1` are different numbers of equal value; the exponent decides how the number
is written. -/

namespace DatedMoney

/-- Powers of whole numbers are those of the core library, whatever else is in scope. -/
@[default_instance high + 1]
instance (priority := high) wholePow [NatPow α] : Pow α Nat := instPowNat

/-- `finite s c e` is `c * 10 ^ e`, negated if `s`. A `nan` is not a number: a signaling one
refuses to take part in arithmetic; its payload is a number it carries, zero for none. -/
inductive Decimal where
  | finite (negative : Bool) (coefficient : Nat) (exponent : Int)
  | infinite (negative : Bool)
  | nan (negative signaling : Bool) (payload : Nat)
deriving DecidableEq, Repr, Inhabited

namespace Decimal

/-- The first power of ten at or above `10 ^ d` that exceeds `n`, in at most `fuel` steps. -/
def seekPower (n : Nat) : (fuel d : Nat) → Nat
  | 0, d => d
  | fuel + 1, d => if n < 10 ^ d then d else seekPower n fuel (d + 1)

/-- How many digits `n` has when written in base ten. Zero has one. The search starts from the
length in base two, as `10 ^ 643 ≤ 2 ^ 2136`. -/
def digitCount (n : Nat) : Nat :=
  seekPower n n (max 1 (n.log2 * 643 / 2136))

/-- The least `p` with `n / d < 10 ^ p`, for positive `n` and `d`. -/
def quotientTop (n d : Nat) : Int :=
  let i := digitCount n
  let j := digitCount d
  (i : Int) - j + (if n * 10 ^ (j - i) < d * 10 ^ (i - j) then 0 else 1)

/-- `n * 10 ^ k`. -/
def shiftLeft (n k : Nat) : Nat :=
  if n = 0 then 0 else n * 10 ^ k

/-- An integer as a finite number with exponent zero. -/
def ofInt (n : Int) : Decimal :=
  .finite (n < 0) n.natAbs 0

instance (n : Nat) : OfNat Decimal n := ⟨.finite false n 0⟩

def neg : Decimal → Decimal
  | .finite s c e => .finite (!s) c e
  | .infinite s => .infinite (!s)
  | .nan s q p => .nan (!s) q p

instance : Neg Decimal := ⟨neg⟩

def isFinite : Decimal → Bool
  | .finite .. => true
  | _ => false

def isZero : Decimal → Bool
  | .finite _ c _ => c = 0
  | _ => false

/-- Equality of value. Numbers whose leading digits stand at different places differ, so the
coefficients are brought to one exponent only when they have about the same size. -/
def sameValue : Decimal → Decimal → Bool
  | .finite s c e, .finite s' c' e' =>
    if c = 0 || c' = 0 then c = 0 && c' = 0
    else s = s' && e + digitCount c = e' + digitCount c' &&
      c * 10 ^ (e - min e e').toNat = c' * 10 ^ (e' - min e e').toNat
  | .infinite s, .infinite s' => s = s'
  | _, _ => false

/-- Whether a finite number is whole. -/
def isWhole : Decimal → Bool
  | .finite _ c e => 0 ≤ e || c = 0 || ((-e).toNat < digitCount c && c % 10 ^ (-e).toNat = 0)
  | _ => false

end Decimal
end DatedMoney
