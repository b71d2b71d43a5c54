import DatedMoney.Decimal.Arithmetic
import Mathlib.Data.Int.Log
import Mathlib.Data.Rat.Floor
import Mathlib.Tactic.FieldSimp
import Mathlib.Tactic.Linarith
import Mathlib.Tactic.NormNum
import Mathlib.Tactic.Positivity
import Mathlib.Tactic.Ring

/-!
# Decimals as rational numbers

The number that a finite decimal denotes (`toRat`), and what the tests on coefficients and exponents
say about it: `digitCount` is the decimal logarithm, `sameValue` is equality of numbers
(`sameValue_iff`), `isWhole` finds the integers (`isWhole_iff`).
-/

namespace DatedMoney.Decimal

/-! ## Digits -/

theorem le_seekPower (n fuel d : Nat) : d ≤ seekPower n fuel d := by
  induction fuel generalizing d with
  | zero => exact Nat.le_refl d
  | succ fuel ih =>
    rw [seekPower]
    split
    · exact Nat.le_refl d
    · exact Nat.le_of_succ_le (ih (d + 1))

theorem lt_pow_seekPower {n fuel d : Nat} (h : n < 10 ^ (d + fuel)) :
    n < 10 ^ seekPower n fuel d := by
  induction fuel generalizing d with
  | zero => exact h
  | succ fuel ih =>
    rw [seekPower]
    split
    · assumption
    · exact ih (by rwa [Nat.add_right_comm])

theorem seekPower_eq_or (n fuel d : Nat) :
    seekPower n fuel d = d ∨ 10 ^ (seekPower n fuel d - 1) ≤ n := by
  induction fuel generalizing d with
  | zero => exact .inl rfl
  | succ fuel ih =>
    rw [seekPower]
    split
    · exact .inl rfl
    · rename_i hn
      refine .inr ?_
      rcases ih (d + 1) with h | h
      · rw [h, Nat.add_sub_cancel]
        exact Nat.le_of_not_lt hn
      · exact h

theorem pow_mul_div_le {a b : Nat} (hb : b ≠ 0) (h : 10 ^ a ≤ 2 ^ b) (k : Nat) :
    10 ^ (k * a / b) ≤ 2 ^ k := by
  have h : (10 ^ (k * a / b)) ^ b ≤ (2 ^ k) ^ b :=
    calc (10 ^ (k * a / b)) ^ b
        ≤ 10 ^ (a * k) := by
          rw [← Nat.pow_mul, Nat.mul_comm a]
          exact Nat.pow_le_pow_right (by decide) (Nat.div_mul_le_self ..)
      _ = (10 ^ a) ^ k := Nat.pow_mul ..
      _ ≤ (2 ^ b) ^ k := Nat.pow_le_pow_left h _
      _ = (2 ^ k) ^ b := Nat.pow_right_comm ..
  exact (Nat.pow_le_pow_iff_left hb).1 h

/-- The search for the first power above `n` does not start above it. -/
theorem pow_log2_le {n : Nat} (hn : n ≠ 0) : 10 ^ (n.log2 * 643 / 2136) ≤ n :=
  (pow_mul_div_le (by decide) (by decide +kernel) _).trans (Nat.log2_self_le hn)

theorem digitCount_pos (n : Nat) : 0 < digitCount n :=
  (Nat.le_max_left ..).trans (le_seekPower ..)

theorem lt_pow_digitCount (n : Nat) : n < 10 ^ digitCount n := by
  refine lt_pow_seekPower (Nat.lt_pow_self (by decide : 1 < 10) |>.trans_le ?_)
  exact Nat.pow_le_pow_right (by decide) (Nat.le_add_left ..)

theorem pow_le_of_digitCount {n : Nat} (hn : n ≠ 0) : 10 ^ (digitCount n - 1) ≤ n := by
  rcases seekPower_eq_or n n (max 1 (n.log2 * 643 / 2136)) with h | h
  · rw [digitCount, h]
    rcases Nat.le_total (n.log2 * 643 / 2136) 1 with h1 | h1
    · rw [Nat.max_eq_left h1]
      exact Nat.pos_of_ne_zero hn
    · rw [Nat.max_eq_right h1]
      exact (Nat.pow_le_pow_right (by decide) (Nat.sub_le ..)).trans (pow_log2_le hn)
  · exact h

theorem digitCount_eq_log (n : Nat) : digitCount n = Nat.log 10 n + 1 := by
  by_cases hn : n = 0
  · subst hn
    rfl
  · have hpos := digitCount_pos n
    have hlog : Nat.log 10 n = digitCount n - 1 := by
      refine (Nat.log_eq_iff (.inr ⟨by decide, hn⟩)).2 ⟨pow_le_of_digitCount hn, ?_⟩
      rw [Nat.sub_add_cancel hpos]
      exact lt_pow_digitCount n
    rw [hlog, Nat.sub_add_cancel hpos]

/-- A number has more than `k` digits if and only if it is at least `10 ^ k`. -/
theorem lt_digitCount_iff {n k : Nat} (hn : n ≠ 0) : k < digitCount n ↔ 10 ^ k ≤ n := by
  rw [digitCount_eq_log, Nat.lt_succ_iff]
  exact Nat.le_log_iff_pow_le (by decide) hn

theorem digitCount_le {n k : Nat} (hk : 0 < k) (h : n < 10 ^ k) : digitCount n ≤ k := by
  by_cases hn : n = 0
  · rw [hn]
    exact hk
  · exact Nat.not_lt.1 (mt (lt_digitCount_iff hn).1 (Nat.not_le.2 h))

/-- Zeros at the end of a number count as its digits. -/
theorem digitCount_mul_pow {n : Nat} (hn : n ≠ 0) (k : Nat) :
    digitCount (n * 10 ^ k) = digitCount n + k := by
  induction k with
  | zero => simp
  | succ k ih =>
    rw [Nat.pow_succ, ← Nat.mul_assoc, digitCount_eq_log,
      Nat.log_mul_base (by decide) (Nat.mul_ne_zero hn (by positivity)), ← digitCount_eq_log, ih,
      Nat.add_assoc]

/-! ## The number denoted -/

/-- The number that a finite decimal denotes. What is not finite counts as zero. -/
def toRat : Decimal → ℚ
  | .finite s c e => signed s c * 10 ^ e
  | _ => 0

theorem toRat_finite (s : Bool) (c : Nat) (e : Int) :
    (Decimal.finite s c e).toRat = signed s c * 10 ^ e := rfl

theorem toRat_nonnegative (c : Nat) (e : Int) : (Decimal.finite false c e).toRat = c * 10 ^ e := by
  simp [toRat, signed]

theorem exists_finite {a : Decimal} (h : a.isFinite) : ∃ s c e, a = .finite s c e := by
  cases a with
  | finite s c e => exact ⟨s, c, e, rfl⟩
  | infinite | nan => cases h

theorem natAbs_signed (s : Bool) (c : Nat) : (signed s c).natAbs = c := by
  cases s <;> simp [signed]

theorem abs_signed (s : Bool) (c : Nat) : |(signed s c : ℚ)| = c := by
  cases s <;> simp [signed]

theorem signed_eq (s : Bool) (c : Nat) : (signed s c : ℚ) = (if s then -1 else 1) * c := by
  cases s <;> simp [signed]

theorem signed_not (s : Bool) (c : Nat) : signed (!s) c = -signed s c := by
  cases s <;> simp [signed]

theorem ten_zpow_pos (e : Int) : (0 : ℚ) < 10 ^ e := zpow_pos (by norm_num) e

theorem ten_zpow_add (a b : Int) : (10 : ℚ) ^ (a + b) = 10 ^ a * 10 ^ b :=
  zpow_add₀ (by norm_num) a b

theorem add_self_zpow_le (e : Int) : (10 : ℚ) ^ e + 10 ^ e ≤ 10 ^ (e + 1) := by
  rw [zpow_add_one₀ (by norm_num)]
  linarith [ten_zpow_pos e]

/-- A power of ten is a whole number of units of any lower one. -/
theorem exists_mul_ten_zpow {k e : Int} (h : e ≤ k) : ∃ m : ℤ, (10 : ℚ) ^ k = m * 10 ^ e := by
  refine ⟨10 ^ (k - e).toNat, ?_⟩
  push_cast
  rw [← zpow_natCast, ← ten_zpow_add, Int.toNat_of_nonneg (by omega), Int.sub_add_cancel]

/-- Zeros that are moved from the exponent to the coefficient do not change a number. -/
theorem shift_mul_zpow (c : Nat) {p e : Int} (h : p ≤ e) :
    ((c * 10 ^ (e - p).toNat : Nat) : ℚ) * 10 ^ p = c * 10 ^ e := by
  have he : (10 : ℚ) ^ e = 10 ^ (e - p).toNat * 10 ^ p := by
    rw [← zpow_natCast, ← ten_zpow_add, Int.toNat_of_nonneg (by omega), Int.sub_add_cancel]
  rw [he]
  push_cast
  ring

theorem abs_toRat_finite (s : Bool) (c : Nat) (e : Int) :
    |(Decimal.finite s c e).toRat| = c * 10 ^ e := by
  rw [toRat_finite, abs_mul, abs_signed, abs_of_pos (ten_zpow_pos e)]

theorem isFinite_neg (a : Decimal) : (-a).isFinite = a.isFinite := by
  cases a <;> rfl

theorem toRat_neg (a : Decimal) : (-a).toRat = -a.toRat := by
  change (Decimal.neg a).toRat = _
  cases a with
  | finite s c e => simp [neg, toRat, signed_not]
  | infinite | nan => simp [neg, toRat]

theorem toRat_eq_zero_iff (s : Bool) (c : Nat) (e : Int) :
    (Decimal.finite s c e).toRat = 0 ↔ c = 0 := by
  rw [← abs_eq_zero, abs_toRat_finite, mul_eq_zero, Nat.cast_eq_zero]
  exact or_iff_left (ten_zpow_pos e).ne'

/-- The sign bit of a number that is not zero is its sign. -/
theorem toRat_neg_iff {s : Bool} {c : Nat} (hc : c ≠ 0) (e : Int) :
    (Decimal.finite s c e).toRat < 0 ↔ s := by
  have h : (0 : ℚ) < c * 10 ^ e :=
    mul_pos (by exact_mod_cast Nat.pos_of_ne_zero hc) (ten_zpow_pos e)
  cases s
  · simpa [toRat, signed] using h.le
  · simpa [toRat, signed] using h

/-- Equal numbers that are not zero have the same sign bit. -/
theorem sign_congr {s s' : Bool} {c c' : Nat} {e e' : Int} (hc : c ≠ 0)
    (h : (Decimal.finite s c e).toRat = (Decimal.finite s' c' e').toRat) : s = s' := by
  have hc' : c' ≠ 0 := fun h0 =>
    hc ((toRat_eq_zero_iff s c e).1 (h.trans ((toRat_eq_zero_iff s' c' e').2 h0)))
  have hneg := toRat_neg_iff (s := s) hc e
  rw [h, toRat_neg_iff hc' e'] at hneg
  exact Bool.eq_iff_iff.2 hneg.symm

/-- Equal numbers have the same digits once they are brought to one exponent. -/
theorem coefficients_eq_iff {c c' : Nat} {e e' p : Int} (h : p ≤ e) (h' : p ≤ e') :
    c * 10 ^ (e - p).toNat = c' * 10 ^ (e' - p).toNat ↔ (c * 10 ^ e : ℚ) = c' * 10 ^ e' := by
  rw [← shift_mul_zpow c h, ← shift_mul_zpow c' h', mul_left_inj' (ten_zpow_pos p).ne',
    Nat.cast_inj]

theorem sameValue_iff {a b : Decimal} (ha : a.isFinite) (hb : b.isFinite) :
    a.sameValue b ↔ a.toRat = b.toRat := by
  obtain ⟨s, c, e, rfl⟩ := exists_finite ha
  obtain ⟨s', c', e', rfl⟩ := exists_finite hb
  rw [sameValue]
  by_cases hc : c = 0
  · subst hc
    rw [(toRat_eq_zero_iff s 0 e).2 rfl, eq_comm (a := (0 : ℚ)), toRat_eq_zero_iff]
    simp
  by_cases hc' : c' = 0
  · subst hc'
    rw [(toRat_eq_zero_iff s' 0 e').2 rfl, toRat_eq_zero_iff]
    simp
  have hp : min e e' ≤ e := min_le_left ..
  have hp' : min e e' ≤ e' := min_le_right ..
  have hdigits : c * 10 ^ (e - min e e').toNat = c' * 10 ^ (e' - min e e').toNat →
      e + digitCount c = e' + digitCount c' := by
    intro h
    have h := congrArg digitCount h
    rw [digitCount_mul_pow hc, digitCount_mul_pow hc'] at h
    omega
  simp only [hc, hc', decide_false, Bool.or_self, Bool.false_eq_true, if_false, Bool.and_eq_true,
    decide_eq_true_eq]
  rw [coefficients_eq_iff hp hp'] at *
  constructor
  · rintro ⟨⟨rfl, -⟩, h⟩
    cases s <;> simp_all [toRat, signed]
  · intro h
    obtain rfl := sign_congr hc h
    have h : (c * 10 ^ e : ℚ) = c' * 10 ^ e' := by
      rw [← abs_toRat_finite s, h, abs_toRat_finite]
    exact ⟨⟨rfl, hdigits h⟩, h⟩

/-- Finite numbers can always be compared. -/
theorem equal_finite {a b : Decimal} (ha : a.isFinite) (hb : b.isFinite) :
    equal a b = .ok (decide (a.toRat = b.toRat)) := by
  have h := sameValue_iff ha hb
  obtain ⟨s, c, e, rfl⟩ := exists_finite ha
  obtain ⟨s', c', e', rfl⟩ := exists_finite hb
  rw [equal]
  · congr 1
    exact Bool.eq_iff_iff.2 (h.trans decide_eq_true_iff.symm)
  all_goals simp

theorem isWhole_iff {a : Decimal} (h : a.isFinite) : a.isWhole ↔ ∃ n : ℤ, a.toRat = n := by
  obtain ⟨s, c, e, rfl⟩ := exists_finite h
  rcases Int.le_total 0 e with he | he
  · obtain ⟨k, rfl⟩ := Int.eq_ofNat_of_zero_le he
    refine iff_of_true (by simp [isWhole]) ⟨signed s c * 10 ^ k, ?_⟩
    simp [toRat]
  obtain ⟨k, rfl⟩ : ∃ k : Nat, e = -k := ⟨(-e).toNat, by omega⟩
  have hdvd : (∃ n : ℤ, (Decimal.finite s c (-k)).toRat = n) ↔ 10 ^ k ∣ c := by
    have h10 : (10 ^ k : ℚ) ≠ 0 := by positivity
    have hn : ∀ n : ℤ, (Decimal.finite s c (-k)).toRat = n ↔ signed s c = 10 ^ k * n := by
      intro n
      rw [toRat, zpow_neg, zpow_natCast, ← div_eq_mul_inv, div_eq_iff h10, mul_comm (n : ℚ)]
      exact_mod_cast Iff.rfl
    simp only [hn]
    rw [← Int.natCast_dvd_natCast, ← Int.dvd_natAbs (b := (c : ℤ)), Int.natAbs_natCast]
    conv_rhs => rw [← natAbs_signed s c, Int.dvd_natAbs]
    push_cast
    rfl
  rw [hdvd]
  by_cases hc : c = 0
  · simp [isWhole, hc]
  have hlt : 10 ^ k ∣ c → k < digitCount c := fun h =>
    (lt_digitCount_iff hc).2 (Nat.le_of_dvd (Nat.pos_of_ne_zero hc) h)
  simp only [isWhole, Int.neg_neg, Int.toNat_natCast, Bool.or_eq_true, decide_eq_true_eq,
    Bool.and_eq_true, hc, or_false, ← Nat.dvd_iff_mod_eq_zero]
  constructor
  · rintro (h | h)
    · obtain rfl : k = 0 := by omega
      simp
    · exact h.2
  · exact fun h => .inr ⟨hlt h, h⟩

end DatedMoney.Decimal
