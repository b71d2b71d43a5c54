import DatedMoney.Index.Bisect
import Mathlib.Data.List.Basic

/-!
# Binary search

A list falls apart into the elements that are below a point and the others. The search ends where
they meet (`bisect_append`), as the window from the one bound to the other always spans that place.
-/

namespace DatedMoney.Index

variable {α : Type} {below : α → Bool} {l r : List α}

theorem bisectWithin_append (hl : ∀ x ∈ l, below x) (hr : ∀ x ∈ r, ¬below x) {steps lo hi : Nat}
    (hhi : hi ≤ (l ++ r).length) (hlo : lo ≤ l.length) (hlast : l.length ≤ hi)
    (hsteps : hi ≤ lo + steps) : bisectWithin below (l ++ r) steps lo hi hhi = l.length := by
  induction steps generalizing lo hi with
  | zero =>
    rw [bisectWithin]
    omega
  | succ steps ih =>
    rw [bisectWithin]
    split
    · rename_i hlt
      rcases Nat.lt_or_ge ((lo + hi) / 2) l.length with hmid | hmid
      · rw [List.getElem_append_left hmid, if_pos (hl _ (List.getElem_mem hmid))]
        exact ih hhi (by omega) hlast (by omega)
      · rw [List.getElem_append_right hmid, if_neg (hr _ (List.getElem_mem _))]
        exact ih _ hlo hmid (by omega)
    · omega

theorem bisect_append (hl : ∀ x ∈ l, below x) (hr : ∀ x ∈ r, ¬below x) :
    bisect below (l ++ r) = l.length :=
  bisectWithin_append hl hr _ (Nat.zero_le _) (by simp) (by simp)

end DatedMoney.Index
