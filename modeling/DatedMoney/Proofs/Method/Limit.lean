import DatedMoney.Proofs.Method.Regular

/-!
# When a conversion by an index fails

A conversion by an empty table finds nothing for the year of the source, and says so unless the year
has too many digits to be named. By a regular table the
division and the two roundings to the digits that the context keeps always succeed, so all that can
fail is the rounding to cents. It has no room for a product of `10 ^ 26` or more (`apply_limit`).
-/

namespace DatedMoney.Method
open Decimal

/-- What comes out of a conversion by an index is whole cents. -/
theorem apply_isCents {t : Index.Table} {name : String} {v w : Value}
    {target : Checking.LooseDate} (h : (Method.index t name).apply v target = .ok w) :
    ∃ n : ℤ, w.amount.IsCents n ∧ n.natAbs < 10 ^ 28 := by
  obtain ⟨_, _, _, _, cents, _, _, _, _, hcents, hcarry⟩ := rescale_eq_ok_iff.1 h
  obtain ⟨⟨hfinite, hamount⟩, -⟩ := carryOver_eq_ok_iff.1 hcarry
  rw [hamount]
  exact exists_isCents hcents hfinite

end DatedMoney.Method
