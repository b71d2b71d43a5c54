import DatedMoney.Proofs.Decimal.Arithmetic

/-!
# Sums round the exact result once

The sum and the difference of finite numbers are the numbers nearest to the exact ones
(`add_outcome`, `sub_outcome`). That holds even if one number lies so far below the other that
nothing but its sign enters into the computation.
-/

namespace DatedMoney

/-- Less than one unit more than a number that ends in a zero or a five does not change what is
nearest to it among the multiples of a power of ten, however little it is. -/
theorem Tie.nearest_add_part {tie : Tie} {n : ℤ} (hn : 5 ∣ n) {g : ℕ} (hg : 0 < g) {t t' : ℚ}
    (ht : 0 < t ∧ t ≤ 1) (ht' : 0 < t' ∧ t' ≤ 1) :
    tie.nearest ((n + t) / 10 ^ g) = tie.nearest ((n + t') / 10 ^ g) := by
  obtain ⟨g, rfl⟩ := Nat.exists_eq_succ_of_ne_zero hg.ne'
  have h10 : (0 : ℚ) < 10 ^ g := by positivity
  have hround := tie.abs_nearest_sub_le ((n + 1) / 10 ^ (g + 1))
  generalize hq : tie.nearest ((n + 1 : ℚ) / 10 ^ (g + 1)) = q at hround
  -- No half lies between the number itself and one unit more.
  have hwhole : -(5 * 10 ^ g) + 5 ≤ q * 10 ^ (g + 1) - n ∧ q * 10 ^ (g + 1) - n ≤ 5 * 10 ^ g := by
    have hunit : |((q * 10 ^ (g + 1) - n - 1 : ℤ) : ℚ)| ≤ (5 * 10 ^ g : ℤ) := by
      have hmul := mul_le_mul_of_nonneg_right hround (by positivity : (0 : ℚ) ≤ 10 ^ (g + 1))
      rw [← abs_of_pos (by positivity : (0 : ℚ) < 10 ^ (g + 1)), ← abs_mul, sub_mul,
        abs_of_pos (by positivity : (0 : ℚ) < 10 ^ (g + 1)), div_mul_cancel₀ _ (by positivity),
        pow_succ] at hmul
      push_cast
      rw [pow_succ, sub_sub]
      linarith
    have hunit : |q * 10 ^ (g + 1) - n - 1| ≤ 5 * 10 ^ g := by exact_mod_cast hunit
    have hdvd : 5 ∣ q * 10 ^ (g + 1) - n :=
      dvd_sub (dvd_mul_of_dvd_right (dvd_pow (by decide) (by positivity)) q) hn
    rw [abs_le] at hunit
    generalize q * 10 ^ (g + 1) - n = d at *
    generalize (10 : ℤ) ^ g = u at *
    omega
  have hlow : ((-(5 * 10 ^ g) + 5 : ℤ) : ℚ) ≤ (q * 10 ^ (g + 1) - n : ℤ) := by
    exact_mod_cast hwhole.1
  have hhigh : ((q * 10 ^ (g + 1) - n : ℤ) : ℚ) ≤ (5 * 10 ^ g : ℤ) := by exact_mod_cast hwhole.2
  push_cast [pow_succ] at hlow hhigh
  have hnear (t : ℚ) (ht : 0 < t ∧ t ≤ 1) : tie.nearest ((n + t) / 10 ^ (g + 1)) = q := by
    refine nearest_eq_of_abs_lt ?_
    rw [← mul_lt_mul_iff_left₀ (by positivity : (0 : ℚ) < 10 ^ (g + 1)),
      ← abs_of_pos (by positivity : (0 : ℚ) < 10 ^ (g + 1)), ← abs_mul, sub_mul,
      abs_of_pos (by positivity : (0 : ℚ) < 10 ^ (g + 1)), div_mul_cancel₀ _ (by positivity),
      pow_succ, abs_lt]
    constructor <;> linarith
  rw [hnear t ht, hnear t' ht']

namespace Decimal

theorem exists_log_mul_ten_zpow {n : ℤ} (hn : 0 < n) (e : Int) :
    ∃ k, e ≤ k ∧ (10 : ℚ) ^ k ≤ n * 10 ^ e ∧ (n * 10 ^ e : ℚ) < 10 ^ (k + 1) := by
  have hsize : (10 : ℚ) ^ e ≤ n * 10 ^ e :=
    le_mul_of_one_le_left (ten_zpow_pos e).le (by exact_mod_cast hn)
  have hpos : (0 : ℚ) < n * 10 ^ e := (ten_zpow_pos e).trans_le hsize
  have hlow := zpow_log_le (abs_pos.2 hpos.ne')
  have hhigh := lt_zpow_log |(n * 10 ^ e : ℚ)|
  rw [abs_of_pos hpos] at hlow hhigh
  refine ⟨_, ?_, hlow, hhigh⟩
  have := (zpow_lt_zpow_iff_right₀ (by norm_num : (1 : ℚ) < 10)).1 (hsize.trans_lt hhigh)
  omega

/-- The next power of ten is a multiple of `10 ^ e` as well, so the sum does not reach it. -/
theorem exists_log_add_of_pos {n : ℤ} (hn : 0 < n) (e : Int) :
    ∃ k, e ≤ k + 1 ∧ ∀ d : ℚ, 0 < d → d * 10 ≤ 10 ^ e → Int.log 10 |n * 10 ^ e + d| = k := by
  obtain ⟨k, hek, hlow, hhigh⟩ := exists_log_mul_ten_zpow hn e
  obtain ⟨m, hm⟩ := exists_mul_ten_zpow (by omega : e ≤ k + 1)
  refine ⟨k, by omega, fun d hd hsmall => ?_⟩
  rw [hm, mul_lt_mul_iff_left₀ (ten_zpow_pos e), Int.cast_lt, ← Int.add_one_le_iff] at hhigh
  have hnext : ((n + 1 : ℤ) : ℚ) * 10 ^ e ≤ m * 10 ^ e :=
    mul_le_mul_of_nonneg_right (by exact_mod_cast hhigh) (ten_zpow_pos e).le
  push_cast at hnext
  have hpos := ten_zpow_pos k
  rw [abs_of_pos (by linarith)]
  exact log_eq_of_bounds (by linarith) (by rw [hm]; linarith)

/-- Below a power of ten the leading digit stands one place lower; elsewhere it stays. -/
theorem exists_log_sub_of_pos {n : ℤ} (hn : 0 < n) (e : Int) :
    ∃ k, e ≤ k + 1 ∧ ∀ d : ℚ, 0 < d → d * 10 ≤ 10 ^ e → Int.log 10 |n * 10 ^ e - d| = k := by
  obtain ⟨k, hek, hlow, hhigh⟩ := exists_log_mul_ten_zpow hn e
  have hunit : (10 : ℚ) ^ e ≤ 10 ^ k := zpow_le_zpow_right₀ (by norm_num) hek
  have hpos := ten_zpow_pos k
  rcases hlow.eq_or_lt with heq | hlt
  · have hprev : (10 : ℚ) ^ (k - 1) * 10 = 10 ^ k := by
      rw [← zpow_add_one₀ (by norm_num), Int.sub_add_cancel]
    refine ⟨k - 1, by omega, fun d hd hsmall => ?_⟩
    rw [abs_of_pos (by linarith)]
    refine log_eq_of_bounds (by linarith) ?_
    rw [Int.sub_add_cancel]
    linarith
  · obtain ⟨m, hm⟩ := exists_mul_ten_zpow hek
    rw [hm, mul_lt_mul_iff_left₀ (ten_zpow_pos e), Int.cast_lt, ← Int.add_one_le_iff] at hlt
    refine ⟨k, by omega, fun d hd hsmall => ?_⟩
    have hnext : ((m + 1 : ℤ) : ℚ) * 10 ^ e ≤ n * 10 ^ e :=
      mul_le_mul_of_nonneg_right (by exact_mod_cast hlt) (ten_zpow_pos e).le
    push_cast at hnext
    rw [abs_of_pos (by linarith)]
    exact log_eq_of_bounds (by rw [hm]; linarith) (by linarith)

/-- A multiple of `10 ^ e` keeps the place of its leading digit, whatever small number is added. -/
theorem exists_log_add {n : ℤ} (hn : n ≠ 0) {e p : Int} (hp : p < e) :
    ∃ k, e ≤ k + 1 ∧ ∀ d : ℚ, 0 < d ∧ d ≤ 10 ^ p → Int.log 10 |n * 10 ^ e + d| = k := by
  have hsmall : (10 : ℚ) ^ p * 10 ≤ 10 ^ e := by
    rw [← zpow_add_one₀ (by norm_num)]
    exact zpow_le_zpow_right₀ (by norm_num) hp
  rcases lt_or_gt_of_ne hn with hneg | hpos
  · obtain ⟨k, hk, hlog⟩ := exists_log_sub_of_pos (neg_pos.2 hneg) e
    refine ⟨k, hk, fun d hd => ?_⟩
    have habs : |(n * 10 ^ e + d : ℚ)| = |((-n : ℤ) : ℚ) * 10 ^ e - d| := by
      rw [← abs_neg]
      push_cast
      ring_nf
    rw [habs]
    exact hlog d hd.1 (by linarith)
  · obtain ⟨k, hk, hlog⟩ := exists_log_add_of_pos hpos e
    exact ⟨k, hk, fun d hd => hlog d hd.1 (by linarith)⟩

namespace Context
variable {ctx : Context}

/-- Contexts with more exponents than digits. -/
def Wide (ctx : Context) : Prop := ctx.precision + 2 ≤ ctx.span

theorem money_wide : money.Wide := by
  rw [Wide]
  decide

theorem nearest_add_small_pos (hwide : ctx.Wide) {n : ℤ} (hn : n ≠ 0) (e : Int) {d d' : ℚ}
    (hd : 0 < d ∧ d ≤ 10 ^ (e - ctx.span)) (hd' : 0 < d' ∧ d' ≤ 10 ^ (e - ctx.span)) :
    ctx.nearest (n * 10 ^ e + d) = ctx.nearest (n * 10 ^ e + d') := by
  rw [Wide] at hwide
  obtain ⟨k, hk, hlog⟩ := exists_log_add hn (by omega : e - ctx.span < e)
  rw [nearest, nearest, hlog d hd, hlog d' hd']
  have hcut : e - ctx.span + 1 ≤ ctx.cut (k + 1) := by
    rw [cut]
    omega
  generalize ctx.cut (k + 1) = c at *
  have hpos := ten_zpow_pos (e - ctx.span)
  have hscale (d : ℚ) : (n * 10 ^ e + d) / 10 ^ c =
      ((n * 10 ^ ctx.span : ℤ) + d / 10 ^ (e - ctx.span)) / 10 ^ (c - (e - ctx.span)).toNat := by
    have he : (10 : ℚ) ^ e = 10 ^ ctx.span * 10 ^ (e - ctx.span) := by
      rw [← zpow_natCast, ← ten_zpow_add, add_sub_cancel]
    have hc : (10 : ℚ) ^ c = 10 ^ (c - (e - ctx.span)).toNat * 10 ^ (e - ctx.span) := by
      rw [← zpow_natCast, ← ten_zpow_add, Int.toNat_of_nonneg (by omega), Int.sub_add_cancel]
    rw [hc, ← div_div, he]
    push_cast
    field_simp
  have hpart {d : ℚ} (hd : 0 < d ∧ d ≤ 10 ^ (e - ctx.span)) :
      0 < d / 10 ^ (e - ctx.span) ∧ d / 10 ^ (e - ctx.span) ≤ 1 :=
    ⟨div_pos hd.1 hpos, (div_le_one hpos).2 hd.2⟩
  have hdvd : (5 : ℤ) ∣ n * 10 ^ ctx.span :=
    dvd_mul_of_dvd_right (dvd_pow (by decide) (by omega)) n
  rw [hscale d, hscale d', Tie.nearest_add_part hdvd (by omega) (hpart hd) (hpart hd')]

/-- Of a number that lies far below the last digit kept of another, nothing but the sign matters for
what the sum is rounded to. -/
theorem nearest_add_small (hwide : ctx.Wide) {n : ℤ} (hn : n ≠ 0) (e : Int) (s : Bool) {d d' : ℚ}
    (hd : 0 < d ∧ d ≤ 10 ^ (e - ctx.span)) (hd' : 0 < d' ∧ d' ≤ 10 ^ (e - ctx.span)) :
    ctx.nearest (n * 10 ^ e + (if s then -1 else 1) * d) =
      ctx.nearest (n * 10 ^ e + (if s then -1 else 1) * d') := by
  cases s with
  | false => simpa using nearest_add_small_pos hwide hn e hd hd'
  | true =>
    have h := nearest_add_small_pos hwide (neg_ne_zero.2 hn) e hd hd'
    have hneg (d : ℚ) : (n * 10 ^ e + -1 * d : ℚ) = -((-n : ℤ) * 10 ^ e + d) := by
      push_cast
      ring
    simp only [if_true, hneg, nearest_neg, h]

/-! ## Operations -/

theorem addAt_outcome (hctx : ctx.Proper) (s : Bool) (c : Nat) (s' : Bool) (c' : Nat) (e : Int) :
    ctx.Outcome (signed s c * 10 ^ e + signed s' c' * 10 ^ e) (ctx.addAt s c s' c' e) := by
  rw [addAt, ← add_mul, ← Int.cast_add]
  generalize signed s c + signed s' c' = n
  refine (round_spec hctx _ n.natAbs e).outcome ?_ ?_
  · exact mul_nonneg (Nat.cast_nonneg _) (ten_zpow_pos _).le
  · rcases lt_trichotomy n 0 with h | rfl | h
    · simp [h, Nat.cast_natAbs, abs_of_neg h]
    · simp
    · simp [h.not_gt, h.ne', Nat.cast_natAbs, abs_of_pos h]

theorem signed_shiftLeft (s : Bool) (c k : Nat) :
    signed s (shiftLeft c k) = signed s c * 10 ^ k := by
  have h : shiftLeft c k = c * 10 ^ k := by
    rw [shiftLeft]
    split
    · rename_i hc
      rw [hc, Nat.zero_mul]
    · rfl
  rw [h]
  cases s <;> simp [signed]

theorem addOrdered_outcome (hctx : ctx.Proper) (hwide : ctx.Wide) (s : Bool) (c : Nat) {e : Int}
    (s' : Bool) (c' : Nat) {e' : Int} (h : e' ≤ e) :
    ctx.Outcome (signed s c * 10 ^ e + signed s' c' * 10 ^ e')
      (ctx.addOrdered s c e s' c' e') := by
  have hshift (k : Nat) {p : Int} (hk : e = p + k) :
      (signed s c * 10 ^ e : ℚ) = signed s (shiftLeft c k) * 10 ^ p := by
    rw [signed_shiftLeft, hk, add_comm, ten_zpow_add, zpow_natCast]
    push_cast
    ring
  rw [addOrdered]
  split
  · rename_i hfar
    obtain ⟨hc, hfar⟩ := hfar
    have houtcome := addAt_outcome hctx s (shiftLeft c ctx.span) s' (min 1 c') (e - ctx.span)
    rw [← hshift ctx.span (by omega)] at houtcome
    -- The far number may be replaced by one unit of its sign.
    suffices hsame : ctx.nearest (signed s c * 10 ^ e + signed s' c' * 10 ^ e') =
        ctx.nearest (signed s c * 10 ^ e + signed s' (min 1 c') * 10 ^ (e - ctx.span)) by
      rwa [Outcome, hsame]
    by_cases hc' : c' = 0
    · subst hc'
      simp [signed]
    have hone : min 1 c' = 1 := by omega
    have hn : signed s c ≠ 0 := by cases s <;> simpa [signed] using hc
    have hsmall : (c' * 10 ^ e' : ℚ) ≤ 10 ^ (e - ctx.span) :=
      calc (c' * 10 ^ e' : ℚ) ≤ 10 ^ (Int.log 10 (c' * 10 ^ e' : ℚ) + 1) := (lt_zpow_log _).le
        _ ≤ 10 ^ (e - ctx.span) := by
          rw [log_toRat hc']
          exact zpow_le_zpow_right₀ (by norm_num) (by omega)
    have hpart : (0 : ℚ) < 10 ^ (e - ctx.span) ∧ 10 ^ (e - ctx.span) ≤ (10 : ℚ) ^ (e - ctx.span) :=
      ⟨ten_zpow_pos _, le_rfl⟩
    have hunit := nearest_add_small hwide hn e s' ⟨toRat_pos hc' e', hsmall⟩ hpart
    rw [hone, signed_eq s' c', signed_eq s' 1, mul_assoc, mul_assoc, Nat.cast_one, one_mul]
    exact hunit
  · have houtcome := addAt_outcome hctx s (shiftLeft c (e - e').toNat) s' c' e'
    rwa [← hshift (e - e').toNat (by omega)] at houtcome

/-- The sum of finite numbers is the number nearest to the exact sum, unless that is too large. -/
theorem add_outcome (hctx : ctx.Proper) (hwide : ctx.Wide) {a b : Decimal} (ha : a.isFinite)
    (hb : b.isFinite) : ctx.Outcome (a.toRat + b.toRat) (ctx.add a b) := by
  obtain ⟨s, c, e, rfl⟩ := exists_finite ha
  obtain ⟨s', c', e', rfl⟩ := exists_finite hb
  have hadd : ctx.add (.finite s c e) (.finite s' c' e') =
      if e' ≤ e then ctx.addOrdered s c e s' c' e' else ctx.addOrdered s' c' e' s c e := by
    simp [add, nanResult?]
  rw [hadd]
  split
  · rename_i h
    exact addOrdered_outcome hctx hwide s c s' c' h
  · rename_i h
    rw [add_comm]
    exact addOrdered_outcome hctx hwide s' c' s c (Int.not_le.1 h).le

theorem sub_outcome (hctx : ctx.Proper) (hwide : ctx.Wide) {a b : Decimal} (ha : a.isFinite)
    (hb : b.isFinite) : ctx.Outcome (a.toRat - b.toRat) (ctx.sub a b) := by
  obtain ⟨s, c, e, rfl⟩ := exists_finite hb
  have hsub : ctx.sub a (.finite s c e) = ctx.add a (-.finite s c e) := by
    rw [sub]
    exact nofun
  rw [hsub, sub_eq_add_neg, ← toRat_neg]
  exact add_outcome hctx hwide ha rfl

/-! ## Results of finite numbers are finite -/

theorem isFinite_of_div (hctx : ctx.Proper) {a b d : Decimal} (ha : a.isFinite) (hb : b.isFinite)
    (h : ctx.div a b = .ok d) : d.isFinite := by
  refine ((div_outcome hctx ha hb fun h0 => ?_).of_ok h).1
  obtain ⟨s, c, e, rfl⟩ := exists_finite ha
  obtain ⟨s', c', e', rfl⟩ := exists_finite hb
  obtain rfl := (toRat_eq_zero_iff s' c' e').1 h0
  cases h

end Context

theorem isFinite_of_toCents {a d : Decimal} (ha : a.isFinite) (h : a.toCents = .ok d) :
    d.isFinite := by
  obtain ⟨s, c, e, rfl⟩ := exists_finite ha
  rw [toCents, Context.toPlaces_finite] at h
  split at h
  · cases h
  · cases h
    rfl

end Decimal
end DatedMoney
