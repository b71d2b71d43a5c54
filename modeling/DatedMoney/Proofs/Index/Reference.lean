import DatedMoney.Index.Reference
import DatedMoney.Proofs.Decimal.Rational
import DatedMoney.Proofs.Index.Table

/-!
# Values of the reference tables

The reference tables have a positive value of moderate size for every year (`valueFor_reference`).
-/

namespace DatedMoney.Index

theorem name_ne {t : Table} (ht : t ∈ [cpi, wage, gold]) : t.name ≠ "" := by
  simp only [List.mem_cons, List.not_mem_nil, or_false] at ht
  rcases ht with rfl | rfl | rfl <;> decide

/-- Whether a value is a number between the least and the greatest of all reference values. -/
def moderate : Except Error Decimal → Bool
  | .ok (.finite false c e) => e ≤ 0 && 9 * 10 ^ (-e).toNat ≤ c && c ≤ 60000 * 10 ^ (-e).toNat
  | _ => false

theorem exists_of_moderate {r : Except Error Decimal} (h : moderate r) :
    ∃ d, r = .ok d ∧ d.isFinite ∧ 9 ≤ d.toRat ∧ d.toRat ≤ 60000 := by
  unfold moderate at h
  split at h
  · rename_i c e
    simp only [Bool.and_eq_true, decide_eq_true_eq] at h
    obtain ⟨⟨he, hlow⟩, hhigh⟩ := h
    have h10 : (0 : ℚ) < 10 ^ (-e).toNat := by positivity
    have hrat : (Decimal.finite false c e).toRat = c / 10 ^ (-e).toNat := by
      rw [Decimal.toRat_nonnegative, div_eq_mul_inv, ← zpow_natCast, ← zpow_neg]
      congr 2
      omega
    refine ⟨_, rfl, rfl, ?_, ?_⟩
    · rw [hrat, le_div_iff₀ h10]
      exact_mod_cast hlow
    · rw [hrat, div_le_iff₀ h10]
      exact_mod_cast hhigh
  · cases h

/-- The years from the one before the first of the tables to the last. -/
theorem moderate_valueFor : ∀ t ∈ [cpi, wage, gold], ∀ k ∈ List.range 113,
    moderate (t.valueFor (1912 + (k : Int))) := by decide +kernel

theorem valueFor_reference {t : Table} (ht : t ∈ [cpi, wage, gold]) (y : Int) :
    ∃ d, t.valueFor y = .ok d ∧ d.isFinite ∧ 9 ≤ d.toRat ∧ d.toRat ≤ 60000 := by
  obtain ⟨first, last, hfirst, hlast, hfirst', hlast'⟩ : ∃ first last,
      t.entries.head? = some first ∧ t.entries.getLast? = some last ∧
        first.1 = 1913 ∧ last.1 = 2024 := by
    simp only [List.mem_cons, List.not_mem_nil, or_false] at ht
    rcases ht with rfl | rfl | rfl <;> exact ⟨_, _, rfl, rfl, rfl, rfl⟩
  -- The years beyond the ends have the values of the years at the ends of the range.
  obtain ⟨k, hk, hy⟩ : ∃ k : Nat, k < 113 ∧ t.valueFor y = t.valueFor (1912 + (k : Int)) := by
    rcases Int.lt_or_le y 1912 with h | h
    · refine ⟨0, by decide, ?_⟩
      rw [Table.valueFor_before hfirst (by omega), Table.valueFor_before hfirst (by omega)]
    rcases Int.lt_or_le 2024 y with h' | h'
    · refine ⟨112, by decide, ?_⟩
      rw [Table.valueFor_after hlast (by omega), Table.valueFor_after hlast (by omega)]
    · exact ⟨(y - 1912).toNat, by omega, by congr 1; omega⟩
  rw [hy]
  exact exists_of_moderate (moderate_valueFor t ht k (List.mem_range.2 hk))

end DatedMoney.Index
