/-! Binary search in a list of which a beginning lies below a point, and the rest does not. -/

namespace DatedMoney.Index

/-- The search in the window from `lo` to `hi`. Each step cuts off half of the window. -/
def bisectWithin (below : α → Bool) (xs : List α) : (steps lo hi : Nat) → hi ≤ xs.length → Nat
  | 0, lo, _, _ => lo
  | steps + 1, lo, hi, hhi =>
    if h : lo < hi then
      if below xs[(lo + hi) / 2] then bisectWithin below xs steps ((lo + hi) / 2 + 1) hi hhi
      else bisectWithin below xs steps lo ((lo + hi) / 2) (by omega)
    else lo

/-- The place of the first element that is not below, or else the end. -/
def bisect (below : α → Bool) (xs : List α) : Nat :=
  bisectWithin below xs xs.length 0 xs.length (Nat.le_refl _)

variable {below : α → Bool} {xs : List α}

theorem bisectWithin_le {steps lo hi : Nat} (hlo : lo ≤ hi) (hhi : hi ≤ xs.length) :
    bisectWithin below xs steps lo hi hhi ≤ hi := by
  induction steps generalizing lo hi with
  | zero => exact hlo
  | succ steps ih =>
    rw [bisectWithin]
    split
    · split
      · exact ih (by omega) hhi
      · exact Nat.le_trans (ih (by omega) _) (by omega)
    · exact hlo

theorem bisect_le (below : α → Bool) (xs : List α) : bisect below xs ≤ xs.length :=
  bisectWithin_le (Nat.zero_le _) (Nat.le_refl _)

end DatedMoney.Index
