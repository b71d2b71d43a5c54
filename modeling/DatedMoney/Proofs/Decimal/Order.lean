import DatedMoney.Proofs.Decimal.Rounding

/-!
# Rounding keeps the order

A larger number is not rounded to a smaller one (`nearest_mono`), and what has no more digits than
the context keeps stays as it is (`Fits.nearest_eq`). So a number between two that fit is rounded to
one between them. What is rounded fits (`fits_nearest`), and to round it once more, to places, does
not add a digit (`Fits.natAbs_nearest_lt_iff`).
-/

namespace DatedMoney.Decimal.Context

variable {ctx : Context}

/-- The numbers that the context has, as far as digits and the least exponent go. -/
def Fits (ctx : Context) (x : ℚ) : Prop :=
  ∃ (m : ℤ) (k : Int), x = m * 10 ^ k ∧ |m| < 10 ^ ctx.precision ∧ ctx.etiny ≤ k

theorem Fits.neg {x : ℚ} (h : ctx.Fits x) : ctx.Fits (-x) := by
  obtain ⟨m, k, rfl, hm, hk⟩ := h
  exact ⟨-m, k, by push_cast; ring, by rwa [abs_neg], hk⟩

theorem fits_zpow (hctx : ctx.Proper) {k : Int} (hk : ctx.etiny ≤ k) : ctx.Fits (10 ^ k) :=
  ⟨1, k, by rw [Int.cast_one, one_mul], by
    rw [abs_one]
    exact one_lt_pow₀ (by decide) hctx.precision_pos.ne', hk⟩

theorem Fits.nearest_eq {x : ℚ} (h : ctx.Fits x) : ctx.nearest x = x := by
  obtain ⟨m, k, rfl, hm, hk⟩ := h
  by_cases hm0 : m = 0
  · simp [hm0]
  have habs : |(m * 10 ^ k : ℚ)| = (|m| : ℤ) * 10 ^ k := by
    rw [abs_mul, abs_of_pos (ten_zpow_pos k), Int.cast_abs]
  have hpos : 0 < |(m * 10 ^ k : ℚ)| :=
    abs_pos.2 (mul_ne_zero (by exact_mod_cast hm0) (ten_zpow_pos k).ne')
  have hlt : |(m * 10 ^ k : ℚ)| < ((10 : ℕ) : ℚ) ^ (ctx.precision + k : Int) := by
    push_cast
    rw [habs, ten_zpow_add, zpow_natCast]
    exact mul_lt_mul_of_pos_right (by exact_mod_cast hm) (ten_zpow_pos k)
  have hlog := (Int.lt_zpow_iff_log_lt (by decide) hpos).1 hlt
  have hcut : ctx.cut (Int.log 10 |(m * 10 ^ k : ℚ)| + 1) ≤ k := by
    rw [cut]
    omega
  generalize hc : ctx.cut (Int.log 10 |(m * 10 ^ k : ℚ)| + 1) = c at *
  refine nearest_eq_self (m := |m| * 10 ^ (k - c).toNat) ?_
  have hpow : (10 : ℚ) ^ k = 10 ^ (k - c).toNat * 10 ^ c := by
    rw [← zpow_natCast, ← ten_zpow_add, Int.toNat_of_nonneg (by omega), Int.sub_add_cancel]
  rw [hc, div_eq_iff (ten_zpow_pos c).ne', habs, hpow]
  push_cast
  ring

/-- What is rounded to the context is a number that the context has. -/
theorem fits_nearest (hctx : ctx.Proper) (x : ℚ) : ctx.Fits (ctx.nearest x) := by
  wlog hx : 0 ≤ x generalizing x
  · have hneg := this (-x) (by linarith)
    rw [nearest_neg] at hneg
    exact neg_neg (ctx.nearest x) ▸ hneg.neg
  have hdigits : Tie.toEven.nearest _ ≤ Tie.toEven.nearest _ :=
    Tie.nearest_mono (ctx.div_cut_le x)
  have hnonneg : 0 ≤ Tie.toEven.nearest _ :=
    Tie.nearest_nonneg (div_nonneg hx (ten_zpow_pos (ctx.cut (Int.log 10 x + 1))).le)
  have hetiny : ctx.etiny ≤ ctx.cut (Int.log 10 x + 1) := le_max_right ..
  rw [nearest, abs_of_nonneg hx]
  rw [Tie.nearest_natCast] at hdigits
  generalize ctx.cut (Int.log 10 x + 1) = k at *
  generalize Tie.toEven.nearest (x / 10 ^ k) = m at *
  rcases hdigits.eq_or_lt with rfl | hlt
  -- A digit too many is a power of ten.
  · have hpow : (((10 ^ ctx.precision : ℕ) : ℤ) : ℚ) * 10 ^ k = 10 ^ (ctx.precision + k : Int) := by
      push_cast
      rw [ten_zpow_add, zpow_natCast]
    rw [hpow]
    exact fits_zpow hctx (by omega)
  · exact ⟨m, k, rfl, by rw [abs_of_nonneg hnonneg]; exact_mod_cast hlt, hetiny⟩

/-- Rounding a number of the context to places does not make it longer than it is. -/
theorem Fits.natAbs_nearest_lt_iff {tie : Tie} {x : ℚ} (h : ctx.Fits x) (places : ℕ) :
    (tie.nearest (x * 10 ^ places)).natAbs < 10 ^ ctx.precision ↔
      |x| * 10 ^ places < 10 ^ ctx.precision := by
  obtain ⟨m, k, rfl, hm, -⟩ := h
  have hscaled : (m : ℚ) * 10 ^ k * 10 ^ places = m * 10 ^ (k + places) := by
    rw [ten_zpow_add, zpow_natCast, mul_assoc]
  have habs : |(m * 10 ^ k : ℚ)| * 10 ^ places = |(m : ℚ) * 10 ^ (k + places)| := by
    rw [← hscaled, abs_mul _ (10 ^ places), abs_of_pos (by positivity : (0 : ℚ) < 10 ^ places)]
  rw [habs, hscaled]
  rcases le_total 0 (k + places) with hk | hk
  -- The number is whole, and rounding leaves it as it is.
  · obtain ⟨n, hn⟩ := exists_mul_ten_zpow hk
    have hwhole : (m * 10 ^ (k + places) : ℚ) = (m * n : ℤ) := by
      rw [hn, zpow_zero, mul_one, Int.cast_mul]
    rw [hwhole, Tie.nearest_intCast, ← Int.cast_abs, Int.abs_eq_natAbs, Int.cast_natCast]
    exact_mod_cast Iff.rfl
  -- It is no larger than its digits.
  · have hle : |(m * 10 ^ (k + places) : ℚ)| ≤ (|m| : ℤ) := by
      rw [abs_mul, abs_of_pos (ten_zpow_pos _), Int.cast_abs]
      exact mul_le_of_le_one_right (abs_nonneg _) (zpow_le_one_of_nonpos₀ (by norm_num) hk)
    have hnearest : |tie.nearest (m * 10 ^ (k + places))| ≤ |m| := by
      have hmono : tie.nearest _ ≤ tie.nearest _ := Tie.nearest_mono hle
      rwa [Tie.nearest_intCast, ← Tie.abs_nearest] at hmono
    refine iff_of_true ?_ ?_
    · rw [Int.abs_eq_natAbs] at hnearest
      exact_mod_cast hnearest.trans_lt hm
    · have hm : ((|m| : ℤ) : ℚ) < 10 ^ ctx.precision := by exact_mod_cast hm
      exact hle.trans_lt hm

/-! ## Order -/

/-- A whole number of units of the last digit kept of `x` is a bound of what `x` is rounded to if it
is one of `x`. -/
theorem nearest_le_unit {x : ℚ} {m : ℤ} (h : x ≤ m * 10 ^ ctx.cut (Int.log 10 |x| + 1)) :
    ctx.nearest x ≤ m * 10 ^ ctx.cut (Int.log 10 |x| + 1) := by
  have h10 := ten_zpow_pos (ctx.cut (Int.log 10 |x| + 1))
  have hle : Tie.toEven.nearest _ ≤ Tie.toEven.nearest (m : ℚ) :=
    Tie.nearest_mono ((div_le_iff₀ h10).2 h)
  rw [Tie.nearest_intCast] at hle
  exact mul_le_mul_of_nonneg_right (by exact_mod_cast hle) h10.le

theorem unit_le_nearest {x : ℚ} {m : ℤ} (h : m * 10 ^ ctx.cut (Int.log 10 |x| + 1) ≤ x) :
    m * 10 ^ ctx.cut (Int.log 10 |x| + 1) ≤ ctx.nearest x := by
  have h10 := ten_zpow_pos (ctx.cut (Int.log 10 |x| + 1))
  have hle : Tie.toEven.nearest (m : ℚ) ≤ Tie.toEven.nearest _ :=
    Tie.nearest_mono ((le_div_iff₀ h10).2 h)
  rw [Tie.nearest_intCast] at hle
  exact mul_le_mul_of_nonneg_right (by exact_mod_cast hle) h10.le

theorem nearest_mono_of_pos (hctx : ctx.Proper) {x y : ℚ} (hx : 0 < x) (h : x ≤ y) :
    ctx.nearest x ≤ ctx.nearest y := by
  have hy := hx.trans_le h
  have hprecision := hctx.precision_pos
  have hlog : Int.log 10 |x| ≤ Int.log 10 |y| := by
    rw [abs_of_pos hx, abs_of_pos hy]
    exact Int.log_mono_right hx h
  have hcut : ctx.cut (Int.log 10 |x| + 1) ≤ ctx.cut (Int.log 10 |y| + 1) := by
    rw [cut, cut]
    omega
  rcases hcut.eq_or_lt with heq | hlt
  · rw [nearest, nearest, heq]
    have h10 := ten_zpow_pos (ctx.cut (Int.log 10 |y| + 1))
    have hmono : Tie.toEven.nearest _ ≤ Tie.toEven.nearest _ :=
      Tie.nearest_mono ((div_le_div_iff_of_pos_right h10).2 h)
    exact mul_le_mul_of_nonneg_right (by exact_mod_cast hmono) h10.le
  -- The power of ten between the two numbers is a whole number of units of either.
  · have hbetween : Int.log 10 |x| + 1 ≤ Int.log 10 |y| ∧
        ctx.cut (Int.log 10 |y| + 1) ≤ Int.log 10 |y| := by
      rw [cut, cut] at hlt
      rw [cut]
      omega
    obtain ⟨m, hm⟩ := exists_mul_ten_zpow (hlt.le.trans hbetween.2)
    obtain ⟨m', hm'⟩ := exists_mul_ten_zpow hbetween.2
    have hxlt : x ≤ 10 ^ Int.log 10 |y| :=
      calc x ≤ |x| := le_abs_self x
        _ ≤ 10 ^ (Int.log 10 |x| + 1) := (lt_zpow_log |x|).le
        _ ≤ 10 ^ Int.log 10 |y| := zpow_le_zpow_right₀ (by norm_num) hbetween.1
    have hyle : 10 ^ Int.log 10 |y| ≤ y := by
      conv_rhs => rw [← abs_of_pos hy]
      exact zpow_log_le (abs_pos.2 hy.ne')
    calc ctx.nearest x ≤ m * 10 ^ ctx.cut (Int.log 10 |x| + 1) := nearest_le_unit (hm ▸ hxlt)
      _ = m' * 10 ^ ctx.cut (Int.log 10 |y| + 1) := hm.symm.trans hm'
      _ ≤ ctx.nearest y := unit_le_nearest (hm' ▸ hyle)

theorem nearest_nonpos {x : ℚ} (h : x ≤ 0) : ctx.nearest x ≤ 0 := by
  have hneg : 0 ≤ ctx.nearest (-x) := nearest_nonneg (neg_nonneg.2 h)
  rwa [nearest_neg, neg_nonneg] at hneg

theorem nearest_mono (hctx : ctx.Proper) {x y : ℚ} (h : x ≤ y) :
    ctx.nearest x ≤ ctx.nearest y := by
  rcases lt_or_ge 0 x with hx | hx
  · exact nearest_mono_of_pos hctx hx h
  rcases lt_or_ge y 0 with hy | hy
  · have hneg := nearest_mono_of_pos hctx (neg_pos.2 hy) (neg_le_neg h)
    rwa [nearest_neg, nearest_neg, neg_le_neg_iff] at hneg
  · exact (nearest_nonpos hx).trans (nearest_nonneg hy)

theorem nearest_le (hctx : ctx.Proper) {x y : ℚ} (hy : ctx.Fits y) (h : x ≤ y) :
    ctx.nearest x ≤ y :=
  hy.nearest_eq ▸ nearest_mono hctx h

theorem le_nearest (hctx : ctx.Proper) {x y : ℚ} (hx : ctx.Fits x) (h : x ≤ y) :
    x ≤ ctx.nearest y :=
  hx.nearest_eq ▸ nearest_mono hctx h

theorem abs_nearest (x : ℚ) : |ctx.nearest x| = ctx.nearest |x| := by
  rcases le_total 0 x with hx | hx
  · rw [abs_of_nonneg hx, abs_of_nonneg (nearest_nonneg hx)]
  · rw [abs_of_nonpos hx, nearest_neg, abs_of_nonpos (nearest_nonpos hx)]

theorem abs_nearest_le (hctx : ctx.Proper) {x y : ℚ} (hy : ctx.Fits y) (h : |x| ≤ y) :
    |ctx.nearest x| ≤ y :=
  abs_le.2 ⟨le_nearest hctx hy.neg (abs_le.1 h).1, nearest_le hctx hy (abs_le.1 h).2⟩

end DatedMoney.Decimal.Context
