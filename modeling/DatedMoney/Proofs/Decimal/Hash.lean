import DatedMoney.Decimal.Hash
import DatedMoney.Proofs.Decimal.Rational
import Mathlib.Data.ZMod.Basic

/-!
# Hashes of decimals

Finite decimals that denote the same number have the same hash (`hash?_congr`), whatever their
digits and the sign of zero. Up to multiples of the prime, ten is a unit, so that the hash of a
finite decimal is its coefficient times an integer power of ten.
-/

namespace DatedMoney.Decimal

theorem hashPower_modEq (b n : Nat) : hashPower b n ≡ b ^ n [MOD hashPrime] := by
  induction n using Nat.strong_induction_on generalizing b with
  | _ n ih =>
    rw [hashPower]
    split
    · rename_i hn
      rw [hn, Nat.pow_zero]
    rename_i hn
    have hroot : hashPower (b * b % hashPrime) (n / 2) ≡ b ^ (2 * (n / 2)) [MOD hashPrime] := by
      refine (ih (n / 2) (by omega) _).trans ?_
      rw [Nat.pow_mul, Nat.pow_two]
      exact (Nat.mod_modEq _ _).pow _
    split
    · rename_i heven
      rwa [show 2 * (n / 2) = n by omega] at hroot
    · rename_i hodd
      refine (Nat.mod_modEq _ _).trans ?_
      have hsplit : b * b ^ (2 * (n / 2)) = b ^ n := by
        rw [← Nat.pow_succ', show (2 * (n / 2)).succ = n by omega]
      rw [← hsplit]
      exact hroot.mul_left b

theorem ten_mul_hashTenth : (10 : ZMod hashPrime) * (hashTenth : ZMod hashPrime) = 1 := by
  have h : ((10 * hashTenth : Nat) : ZMod hashPrime) = (1 : Nat) :=
    (ZMod.natCast_eq_natCast_iff _ _ _).2 (by decide)
  simpa using h

/-- Ten, which has an inverse up to multiples of the prime. -/
def hashTen : (ZMod hashPrime)ˣ where
  val := 10
  inv := hashTenth
  val_inv := ten_mul_hashTenth
  inv_val := by rw [mul_comm, ten_mul_hashTenth]

/-- The power that a coefficient is multiplied with is that of ten, also for negative exponents. -/
theorem hashPower_cast (e : Int) :
    (hashPower (if e < 0 then hashTenth else 10) e.natAbs : ZMod hashPrime) =
      (hashTen ^ e : (ZMod hashPrime)ˣ) := by
  rw [(ZMod.natCast_eq_natCast_iff _ _ _).2 (hashPower_modEq ..), Nat.cast_pow]
  split
  · rename_i he
    obtain ⟨k, rfl⟩ : ∃ k : Nat, e = -k := ⟨e.natAbs, by omega⟩
    rw [Int.natAbs_neg, Int.natAbs_natCast, zpow_neg, zpow_natCast, ← inv_pow,
      Units.val_pow_eq_pow_val]
    rfl
  · rename_i he
    obtain ⟨k, rfl⟩ := Int.eq_ofNat_of_zero_le (Int.not_lt.1 he)
    rw [Int.natAbs_natCast, zpow_natCast, Units.val_pow_eq_pow_val]
    rfl

theorem hashTen_shift (c : Nat) {p e : Int} (h : p ≤ e) :
    ((c * 10 ^ (e - p).toNat : Nat) : ZMod hashPrime) * (hashTen ^ p : (ZMod hashPrime)ˣ) =
      c * (hashTen ^ e : (ZMod hashPrime)ˣ) := by
  have he : hashTen ^ e = hashTen ^ (e - p).toNat * hashTen ^ p := by
    rw [← zpow_natCast, ← zpow_add, Int.toNat_of_nonneg (by omega), Int.sub_add_cancel]
  rw [he, Units.val_mul, Units.val_pow_eq_pow_val, ← mul_assoc]
  push_cast
  rfl

/-- Coefficients that denote the same number under their exponents leave the same remainder. -/
theorem hash_remainder_congr {c c' : Nat} {e e' : Int} (h : (c * 10 ^ e : ℚ) = c' * 10 ^ e') :
    (c : Int) * hashPower (if e < 0 then hashTenth else 10) e.natAbs % hashPrime =
      (c' : Int) * hashPower (if e' < 0 then hashTenth else 10) e'.natAbs % hashPrime := by
  have hdigits := (coefficients_eq_iff (min_le_left e e') (min_le_right e e')).2 h
  rw [← ZMod.intCast_eq_intCast_iff']
  push_cast
  rw [hashPower_cast, hashPower_cast, ← hashTen_shift c (min_le_left e e'), hdigits,
    hashTen_shift c' (min_le_right e e')]

theorem exists_hash {a : Decimal} (ha : a.isFinite) (identity : Int) :
    ∃ n, a.hash? identity = some n := by
  obtain ⟨s, c, e, rfl⟩ := exists_finite ha
  exact ⟨_, rfl⟩

/-- Equal numbers have the same hash. -/
theorem hash?_congr {a b : Decimal} (ha : a.isFinite) (hb : b.isFinite) (h : a.toRat = b.toRat)
    (i j : Int) : a.hash? i = b.hash? j := by
  obtain ⟨s, c, e, rfl⟩ := exists_finite ha
  obtain ⟨s', c', e', rfl⟩ := exists_finite hb
  have habs : (c * 10 ^ e : ℚ) = c' * 10 ^ e' := by
    rw [← abs_toRat_finite s, h, abs_toRat_finite]
  rw [hash?, hash?, hash_remainder_congr habs]
  by_cases hc : c = 0
  · -- Zero is its own opposite, so that its sign does not matter.
    have hc' : c' = 0 := (toRat_eq_zero_iff s' c' e').1 (h ▸ (toRat_eq_zero_iff s c e).2 hc)
    subst hc'
    simp
  · rw [sign_congr hc h]

end DatedMoney.Decimal
