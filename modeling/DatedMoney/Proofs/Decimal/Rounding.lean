import DatedMoney.Proofs.Decimal.Nearest
import DatedMoney.Proofs.Decimal.Rational
import Mathlib.Tactic.GCongr

/-!
# Rounding to a number of digits

`Context.nearest` is the number with as many digits as a context keeps that is nearest to a given
one. Its error is at most half a unit of the last digit kept (`abs_nearest_sub_le`), and it is what
`Context.round` computes (`round_spec`).
-/

namespace DatedMoney.Decimal

theorem log_eq_of_bounds {x : ℚ} {k : Int} (h : (10 : ℚ) ^ k ≤ x) (h' : x < 10 ^ (k + 1)) :
    Int.log 10 x = k := by
  have hx : 0 < x := (ten_zpow_pos k).trans_le h
  have hle := (Int.zpow_le_iff_le_log (b := 10) (by decide) hx).1 (by exact_mod_cast h)
  have hlt := (Int.lt_zpow_iff_log_lt (b := 10) (by decide) hx).1 (by exact_mod_cast h')
  omega

theorem zpow_log_le {x : ℚ} (hx : 0 < x) : (10 : ℚ) ^ Int.log 10 x ≤ x := by
  exact_mod_cast Int.zpow_log_le_self (b := 10) (by decide) hx

theorem lt_zpow_log (x : ℚ) : x < 10 ^ (Int.log 10 x + 1) := by
  exact_mod_cast Int.lt_zpow_succ_log_self (b := 10) (by decide) x

theorem log_mul_zpow {x : ℚ} (hx : 0 < x) (k : Int) :
    Int.log 10 (x * 10 ^ k) = Int.log 10 x + k := by
  have h10 := ten_zpow_pos k
  apply log_eq_of_bounds
  · rw [ten_zpow_add]
    exact mul_le_mul_of_nonneg_right (zpow_log_le hx) h10.le
  · rw [add_right_comm, ten_zpow_add]
    exact mul_lt_mul_of_pos_right (lt_zpow_log x) h10

theorem toRat_pos {c : Nat} (hc : c ≠ 0) (e : Int) : (0 : ℚ) < c * 10 ^ e :=
  mul_pos (by exact_mod_cast Nat.pos_of_ne_zero hc) (ten_zpow_pos e)

theorem log_toRat {c : Nat} (hc : c ≠ 0) (e : Int) :
    Int.log 10 (c * 10 ^ e : ℚ) + 1 = e + digitCount c := by
  rw [log_mul_zpow (by exact_mod_cast Nat.pos_of_ne_zero hc), Int.log_natCast, digitCount_eq_log]
  push_cast
  ring

namespace Context

/-- The contexts in which a number can be rounded at all. -/
structure Proper (ctx : Context) : Prop where
  precision_pos : 0 < ctx.precision
  etiny_le : ctx.etiny ≤ ctx.emax

theorem money_proper : money.Proper := ⟨by decide, by decide⟩

variable {ctx : Context}

/-- The number with no more digits than the context keeps that is nearest to `x`, half to even. -/
def nearest (ctx : Context) (x : ℚ) : ℚ :=
  Tie.toEven.nearest (x / 10 ^ ctx.cut (Int.log 10 |x| + 1)) * 10 ^ ctx.cut (Int.log 10 |x| + 1)

@[simp] theorem nearest_zero : ctx.nearest 0 = 0 := by simp [nearest]

@[simp] theorem nearest_neg (x : ℚ) : ctx.nearest (-x) = -ctx.nearest x := by
  simp [nearest, neg_div]

variable (ctx) in
/-- The error of a rounding is at most half a unit of the last digit kept. -/
theorem abs_nearest_sub_le_cut (x : ℚ) :
    |ctx.nearest x - x| ≤ 10 ^ ctx.cut (Int.log 10 |x| + 1) / 2 := by
  have h10 := ten_zpow_pos (ctx.cut (Int.log 10 |x| + 1))
  have h := Tie.toEven.abs_nearest_sub_le (x / 10 ^ ctx.cut (Int.log 10 |x| + 1))
  rw [nearest]
  generalize ctx.cut (Int.log 10 |x| + 1) = k at *
  calc |(Tie.toEven.nearest (x / 10 ^ k) : ℚ) * 10 ^ k - x|
      = |(Tie.toEven.nearest (x / 10 ^ k) : ℚ) - x / 10 ^ k| * 10 ^ k := by
        rw [← abs_of_pos h10, ← abs_mul, abs_of_pos h10, sub_mul, div_mul_cancel₀ _ h10.ne']
    _ ≤ 1 / 2 * 10 ^ k := mul_le_mul_of_nonneg_right h h10.le
    _ = 10 ^ k / 2 := by ring

/-- The relative error of a rounding, where the exponent limits play no part. -/
theorem abs_nearest_sub_le {x : ℚ} (h : (10 : ℚ) ^ ctx.emin ≤ |x|) :
    |ctx.nearest x - x| ≤ |x| * 10 ^ (1 - ctx.precision : Int) / 2 := by
  have hx : 0 < |x| := (ten_zpow_pos _).trans_le h
  have hlog : ctx.emin ≤ Int.log 10 |x| :=
    (Int.zpow_le_iff_le_log (by decide) hx).1 (by exact_mod_cast h)
  have hcut : ctx.cut (Int.log 10 |x| + 1) = Int.log 10 |x| + (1 - ctx.precision) := by
    rw [cut, etiny]
    omega
  refine (ctx.abs_nearest_sub_le_cut x).trans ?_
  rw [hcut, ten_zpow_add]
  have hself := zpow_log_le hx
  have := (ten_zpow_pos (1 - ctx.precision)).le
  gcongr

variable (ctx) in
/-- The error of any rounding: a part of the number, and as much as the least exponent may add. -/
theorem abs_nearest_sub_le_add (x : ℚ) :
    |ctx.nearest x - x| ≤ |x| * 10 ^ (1 - ctx.precision : Int) / 2 + 10 ^ ctx.etiny / 2 := by
  have htiny := (ten_zpow_pos ctx.etiny).le
  by_cases hx : x = 0
  · rw [hx, nearest_zero, sub_zero, abs_zero, zero_mul, zero_div, zero_add]
    exact div_nonneg htiny (by norm_num)
  have hunit : (10 : ℚ) ^ (Int.log 10 |x| + 1 - ctx.precision) ≤
      |x| * 10 ^ (1 - ctx.precision : Int) := by
    rw [add_sub_assoc, ten_zpow_add]
    exact mul_le_mul_of_nonneg_right (zpow_log_le (abs_pos.2 hx)) (ten_zpow_pos _).le
  have hpos := ten_zpow_pos (Int.log 10 |x| + 1 - ctx.precision)
  have hcut : (10 : ℚ) ^ ctx.cut (Int.log 10 |x| + 1) ≤
      10 ^ (Int.log 10 |x| + 1 - ctx.precision) + 10 ^ ctx.etiny := by
    rw [cut]
    rcases max_choice (Int.log 10 |x| + 1 - ctx.precision) ctx.etiny with h | h
    · rw [h]
      linarith
    · rw [h]
      linarith
  linarith [ctx.abs_nearest_sub_le_cut x]

theorem abs_money_nearest_sub_le {x : ℚ} {k : Int} (hk : money.emin ≤ k) (h : (10 : ℚ) ^ k ≤ |x|) :
    |money.nearest x - x| ≤ |x| * 10 ^ (-27 : Int) / 2 :=
  abs_nearest_sub_le ((zpow_le_zpow_right₀ (by norm_num) hk).trans h)

theorem nearest_nonneg {x : ℚ} (h : 0 ≤ x) : 0 ≤ ctx.nearest x := by
  have h10 := (ten_zpow_pos (ctx.cut (Int.log 10 |x| + 1))).le
  refine mul_nonneg ?_ h10
  exact_mod_cast Tie.nearest_nonneg (div_nonneg h h10)

/-- A number that ends at or above the last digit kept is kept as it is. -/
theorem nearest_eq_self {x : ℚ} {m : ℤ} (h : |x| / 10 ^ ctx.cut (Int.log 10 |x| + 1) = m) :
    ctx.nearest x = x := by
  wlog hx : 0 ≤ x generalizing x
  · have := this (x := -x) (by rwa [abs_neg]) (by linarith)
    rwa [nearest_neg, neg_inj] at this
  rw [abs_of_nonneg hx] at h
  rw [nearest, abs_of_nonneg hx, h, Tie.nearest_intCast, ← h,
    div_mul_cancel₀ _ (ten_zpow_pos _).ne']

/-- A number far below the last digit kept is lost. -/
theorem nearest_eq_zero {x : ℚ} (hx : 0 < x) (h : Int.log 10 x + 1 < ctx.cut (Int.log 10 x + 1)) :
    ctx.nearest x = 0 := by
  rw [nearest, abs_of_pos hx]
  have hlt := lt_zpow_log x
  generalize ctx.cut (Int.log 10 x + 1) = k at *
  have h10 := ten_zpow_pos k
  have hle : (10 : ℚ) ^ (Int.log 10 x + 1) ≤ 10 ^ (k - 1) :=
    zpow_le_zpow_right₀ (by norm_num) (by omega)
  rw [zpow_sub_one₀ (by norm_num)] at hle
  rw [Tie.nearest_eq_of_abs_lt (n := 0), Int.cast_zero, zero_mul]
  rw [Int.cast_zero, zero_sub, abs_neg, abs_of_pos (div_pos hx h10), div_lt_iff₀ h10]
  linarith

/-! ## Results -/

/-- The outcome of an operation with the exact result `x`: the nearest number that the context
has, with the given sign, or too large a number. -/
def Rounds (ctx : Context) (negative : Bool) (x : ℚ) (r : Except Signal Decimal) : Prop :=
  if (10 : ℚ) ^ (ctx.emax + 1) ≤ ctx.nearest x then r = .error .overflow
  else ∃ c e, r = .ok (.finite negative c e) ∧ (c * 10 ^ e : ℚ) = ctx.nearest x

theorem rounds_zero (s : Bool) (x : ℚ) (hx : ctx.nearest x = 0) (e : Int) :
    ctx.Rounds s x (.ok (ctx.zero s e)) := by
  rw [Rounds, hx, if_neg (ten_zpow_pos _).not_ge]
  exact ⟨0, _, rfl, by simp⟩

theorem settle_spec (hctx : ctx.Proper) (s : Bool) {c : Nat} {e : Int} {x : ℚ}
    (hc : c ≤ 10 ^ ctx.precision) (he : c = 0 → e ≤ ctx.emax)
    (hx : (c * 10 ^ e : ℚ) = ctx.nearest x) :
    ctx.Rounds s x (ctx.settle s c e) := by
  obtain ⟨c', e', hsettle, hlt, he', hx'⟩ : ∃ c' e', ctx.settle s c e =
      (if ctx.emax < e' + digitCount c' - 1 then .error .overflow else .ok (.finite s c' e')) ∧
      c' < 10 ^ ctx.precision ∧ (c' = 0 → e' ≤ ctx.emax) ∧ (c' * 10 ^ e' : ℚ) = ctx.nearest x := by
    by_cases h : c = 10 ^ ctx.precision
    · have hp := hctx.precision_pos
      refine ⟨10 ^ (ctx.precision - 1), e + 1, by simp [settle, h], ?_, ?_, ?_⟩
      · exact Nat.pow_lt_pow_right (by decide) (Nat.sub_one_lt_of_lt hp)
      · intro h0
        exact absurd h0 (by positivity)
      · rw [← hx, h, add_comm e, ten_zpow_add, ← mul_assoc]
        congr 1
        push_cast
        rw [pow_sub_one_mul hp.ne']
    · exact ⟨c, e, by simp [settle, h], lt_of_le_of_ne hc h, he, hx⟩
  rw [hsettle, Rounds, ← hx']
  have hover : ctx.emax < e' + digitCount c' - 1 ↔ (10 : ℚ) ^ (ctx.emax + 1) ≤ c' * 10 ^ e' := by
    by_cases h0 : c' = 0
    · have := he' h0
      have h1 : digitCount 0 = 1 := rfl
      simp only [h0, h1, Nat.cast_zero, zero_mul, (ten_zpow_pos _).not_ge, iff_false]
      omega
    · have := Int.zpow_le_iff_le_log (b := 10) (by decide) (x := ctx.emax + 1) (toRat_pos h0 e')
      push_cast at this
      rw [this]
      have := log_toRat h0 e'
      omega
  simp only [hover]
  split
  · rfl
  · exact ⟨c', e', rfl, rfl⟩

variable (ctx) in
/-- The digits of a number down to the last one kept. -/
theorem div_cut_le (x : ℚ) :
    x / 10 ^ ctx.cut (Int.log 10 x + 1) ≤ ((10 ^ ctx.precision : Nat) : ℚ) := by
  have hlt := lt_zpow_log x
  have hcut : Int.log 10 x + 1 ≤ ctx.precision + ctx.cut (Int.log 10 x + 1) := by
    rw [cut]
    omega
  generalize ctx.cut (Int.log 10 x + 1) = k at *
  rw [div_le_iff₀ (ten_zpow_pos k)]
  push_cast
  rw [← zpow_natCast, ← ten_zpow_add]
  exact hlt.le.trans (zpow_le_zpow_right₀ (by norm_num) hcut)

/-- A quotient that is rounded at the last digit kept. -/
theorem settle_roundDiv_spec (hctx : ctx.Proper) (s : Bool) {x : ℚ} (hx : 0 < x) {n d : Nat}
    (hd : 0 < d) (hk : ctx.cut (Int.log 10 x + 1) ≤ Int.log 10 x + 1)
    (h : (n / d : ℚ) = x / 10 ^ ctx.cut (Int.log 10 x + 1)) :
    ctx.Rounds s x (ctx.settle s (Tie.toEven.roundDiv n d) (ctx.cut (Int.log 10 x + 1))) := by
  have hround : (Tie.toEven.roundDiv n d : ℤ) = Tie.toEven.nearest (n / d) := Tie.roundDiv_eq n hd
  rw [h] at hround
  refine settle_spec hctx s ?_ ?_ ?_
  · have hle : Tie.toEven.nearest _ ≤ Tie.toEven.nearest _ := Tie.nearest_mono (ctx.div_cut_le x)
    rw [← hround, Tie.nearest_natCast] at hle
    exact_mod_cast hle
  · -- Only a number without a digit at or above the last one kept can be rounded to zero.
    intro h0
    rw [h0, Int.ofNat_zero] at hround
    have herr := Tie.toEven.abs_nearest_sub_le (x / 10 ^ ctx.cut (Int.log 10 x + 1))
    rw [← hround, Int.cast_zero, zero_sub, abs_neg, abs_of_pos (div_pos hx (ten_zpow_pos _)),
      div_le_iff₀ (ten_zpow_pos _)] at herr
    have hlt : x < ((10 : ℕ) : ℚ) ^ ctx.cut (Int.log 10 x + 1) := by
      have := ten_zpow_pos (ctx.cut (Int.log 10 x + 1))
      push_cast
      linarith
    have hlog := (Int.lt_zpow_iff_log_lt (by decide) hx).1 hlt
    have := hctx.precision_pos
    have := hctx.etiny_le
    rw [cut] at *
    omega
  · rw [nearest, abs_of_pos hx, ← hround, Int.cast_natCast]

theorem round_spec (hctx : ctx.Proper) (s : Bool) (c : Nat) (e : Int) :
    ctx.Rounds s (c * 10 ^ e) (ctx.round s c e) := by
  rw [round]
  split
  · rename_i hc
    exact rounds_zero _ _ (by simp [hc]) _
  rename_i hc
  have hx := toRat_pos hc e
  rw [← log_toRat hc]
  dsimp only
  split
  · -- All digits are kept.
    rename_i hcut
    have hdigits : |(c * 10 ^ e : ℚ)| / 10 ^ ctx.cut (Int.log 10 |(c * 10 ^ e : ℚ)| + 1) =
        ((c * 10 ^ (e - ctx.cut (Int.log 10 (c * 10 ^ e : ℚ) + 1)).toNat : Nat) : ℤ) := by
      rw [abs_of_pos hx, Int.cast_natCast, div_eq_iff (ten_zpow_pos _).ne']
      exact (shift_mul_zpow c hcut).symm
    refine settle_spec hctx s ?_ (fun h => absurd h hc) (nearest_eq_self hdigits).symm
    refine (lt_pow_digitCount c).le.trans (Nat.pow_le_pow_right (by decide) ?_)
    rw [log_toRat hc, cut] at hcut
    omega
  split
  · rename_i hcut
    exact rounds_zero _ _ (nearest_eq_zero hx hcut) _
  · rename_i hcut htop
    refine settle_roundDiv_spec hctx s hx (by positivity) (Int.not_lt.1 htop) ?_
    have hshift := shift_mul_zpow 1 (Int.not_le.1 hcut).le
    rw [Nat.one_mul, Nat.cast_one, one_mul] at hshift
    rw [← hshift, mul_div_mul_right _ _ (ten_zpow_pos e).ne']

theorem abs_nearest_lt {x : ℚ} (hctx : ctx.Proper) (h : |x| ≤ 10 ^ ctx.emax) :
    |ctx.nearest x| < 10 ^ (ctx.emax + 1) := by
  have hemax := ten_zpow_pos ctx.emax
  by_cases hx : x = 0
  · simpa [hx] using ten_zpow_pos _
  have hlog : Int.log 10 |x| ≤ ctx.emax := by
    have hlt : |x| < 10 ^ (ctx.emax + 1) :=
      h.trans_lt (zpow_lt_zpow_right₀ (by norm_num) (Int.lt_succ_self _))
    exact Int.lt_add_one_iff.1
      ((Int.lt_zpow_iff_log_lt (by decide) (abs_pos.2 hx)).1 (by exact_mod_cast hlt))
  have hcut : ctx.cut (Int.log 10 |x| + 1) ≤ ctx.emax := by
    have := hctx.precision_pos
    have := hctx.etiny_le
    rw [cut]
    omega
  have hunit : (10 : ℚ) ^ ctx.cut (Int.log 10 |x| + 1) ≤ 10 ^ ctx.emax :=
    zpow_le_zpow_right₀ (by norm_num) hcut
  have hsub := ctx.abs_nearest_sub_le_cut x
  have htri := abs_sub_abs_le_abs_sub (ctx.nearest x) x
  rw [ten_zpow_add, zpow_one]
  linarith

/-- The outcome of an operation on finite numbers whose exact result is `y`: too large a number, or
one that denotes the nearest. -/
def Outcome (ctx : Context) (y : ℚ) (r : Except Signal Decimal) : Prop :=
  if (10 : ℚ) ^ (ctx.emax + 1) ≤ |ctx.nearest y| then r = .error .overflow
  else ∃ d, r = .ok d ∧ d.isFinite ∧ d.toRat = ctx.nearest y

theorem Rounds.outcome {s : Bool} {x y : ℚ} {r : Except Signal Decimal} (h : ctx.Rounds s x r)
    (hx : 0 ≤ x) (hy : y = (if s then -1 else 1) * x) : ctx.Outcome y r := by
  have hnearest : ctx.nearest y = (if s then -1 else 1) * ctx.nearest x := by
    rw [hy]
    cases s <;> simp
  have habs : |ctx.nearest y| = ctx.nearest x := by
    have := ctx.nearest_nonneg hx
    rw [hnearest]
    cases s <;> simpa using this
  rw [Rounds] at h
  rw [Outcome, habs]
  split at h
  · rename_i hover
    rwa [if_pos hover]
  · rename_i hover
    obtain ⟨c, e, rfl, hx'⟩ := h
    rw [if_neg hover]
    refine ⟨_, rfl, rfl, ?_⟩
    rw [toRat, signed_eq, hnearest, ← hx', mul_assoc]

theorem Outcome.of_ok {y : ℚ} {r : Except Signal Decimal} (h : ctx.Outcome y r) {d : Decimal}
    (hr : r = .ok d) : d.isFinite ∧ d.toRat = ctx.nearest y := by
  subst hr
  rw [Outcome] at h
  split at h
  · cases h
  · obtain ⟨d', hd, hvalue⟩ := h
    cases hd
    exact hvalue

theorem Outcome.exists_ok {y : ℚ} {r : Except Signal Decimal} (h : ctx.Outcome y r)
    (hctx : ctx.Proper) (hy : |y| ≤ 10 ^ ctx.emax) :
    ∃ d, r = .ok d ∧ d.isFinite ∧ d.toRat = ctx.nearest y := by
  rwa [Outcome, if_neg (abs_nearest_lt hctx hy).not_ge] at h

end Context
end DatedMoney.Decimal
