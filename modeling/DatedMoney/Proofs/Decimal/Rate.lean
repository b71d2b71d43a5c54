import DatedMoney.Proofs.Decimal.Cents
import DatedMoney.Proofs.Decimal.Order
import DatedMoney.Proofs.Outcome

/-!
# Amounts at a rate

The product with a rate is rounded to the digits that the context keeps, and then to cents. Its sign
is that of the exact product and its size depends on that of the exact product alone (`atRate_eq`).
So it is odd and monotone in the amount (`atRate_neg`, `atRate_mono`), and equal amounts come to
equal ones (`atRate_congr`).
-/

namespace DatedMoney.Decimal

/-- The two places of the cents leave room for 26 digits before them. -/
theorem cents_lt_iff {x : ℚ} (hx : Context.money.Fits x) :
    (Tie.away.nearest (x * 100)).natAbs < 10 ^ 28 ↔ |x| < 10 ^ 26 := by
  have hplaces : (Tie.away.nearest (x * 10 ^ 2)).natAbs < 10 ^ 28 ↔ |x| * 10 ^ 2 < 10 ^ 28 :=
    hx.natAbs_nearest_lt_iff 2
  rw [← lt_div_iff₀ (by norm_num)] at hplaces
  norm_num at hplaces ⊢
  exact hplaces

/-- The bit for the sign. -/
def negative : Decimal → Bool
  | .finite s _ _ | .infinite s | .nan s _ _ => s

/-- The amount at a rate, rounded to cents. -/
def atRate (amount rate : Decimal) : Except Signal Decimal := do
  let product ← Context.money.mul amount rate
  product.toCents

/-- The outcome of rounding a product to cents that has the size `x`. -/
def centsOf (negative : Bool) (x : ℚ) : Except Signal Decimal :=
  if x < 10 ^ 26 then .ok (.finite negative (Tie.away.nearest (x * 100)).natAbs (-2))
  else if x < 10 ^ (Context.money.emax + 1) then .error .invalidOperation
  else .error .overflow

theorem pow_le_emax : (10 : ℚ) ^ 26 ≤ 10 ^ (Context.money.emax + 1) := by
  rw [← zpow_ofNat]
  exact zpow_le_zpow_right₀ (by norm_num) (by decide)

theorem natAbs_nearestCents (s : Bool) (c : Nat) (e : Int) :
    (Decimal.finite s c e).nearestCents.natAbs = (Tie.away.nearest (c * 10 ^ e * 100)).natAbs := by
  rw [nearestCents, toRat_finite, signed_eq]
  cases s <;> simp

theorem atRate_eq {a r : Decimal} (ha : a.isFinite) (hr : r.isFinite) :
    a.atRate r = centsOf (a.negative ^^ r.negative)
      (Context.money.nearest |a.toRat * r.toRat|) := by
  obtain ⟨s, c, e, rfl⟩ := exists_finite ha
  obtain ⟨s', c', e', rfl⟩ := exists_finite hr
  have hsize : |(Decimal.finite s c e).toRat * (Decimal.finite s' c' e').toRat| =
      (c * c' : Nat) * 10 ^ (e + e') := by
    rw [abs_mul, abs_toRat_finite, abs_toRat_finite, ten_zpow_add, Nat.cast_mul]
    ring
  have hround := Context.round_spec Context.money_proper (s ^^ s') (c * c') (e + e')
  have hfits := Context.fits_nearest Context.money_proper ((c * c' : Nat) * 10 ^ (e + e'))
  have hnonneg : 0 ≤ Context.money.nearest ((c * c' : Nat) * 10 ^ (e + e')) :=
    Context.nearest_nonneg (mul_nonneg (Nat.cast_nonneg _) (ten_zpow_pos _).le)
  have hmul : (Decimal.finite s c e).atRate (.finite s' c' e') =
      (Context.money.round (s ^^ s') (c * c') (e + e') >>= toCents) := rfl
  rw [Context.Rounds] at hround
  rw [hmul, hsize, centsOf]
  generalize Context.money.nearest ((c * c' : Nat) * 10 ^ (e + e')) = x at *
  split at hround
  · rename_i hover
    rw [hround, if_neg (pow_le_emax.trans hover).not_gt, if_neg hover.not_gt]
    rfl
  rename_i hover
  obtain ⟨c'', e'', hround, rfl⟩ := hround
  have hdigits := cents_lt_iff hfits
  rw [abs_of_nonneg hnonneg] at hdigits
  rw [hround, Except.ok_bind, toCents_finite, natAbs_nearestCents, if_pos (not_le.1 hover)]
  by_cases hlt : (c'' * 10 ^ e'' : ℚ) < 10 ^ 26
  · rw [if_neg (not_le.2 (hdigits.2 hlt)), if_pos hlt]
    rfl
  · rw [if_pos (not_lt.1 (mt hdigits.1 hlt)), if_neg hlt]

section
variable {a b r d : Decimal}

/-- There is an amount exactly if the product stays below the limit. -/
theorem atRate_ok_iff (ha : a.isFinite) (hr : r.isFinite) :
    (∃ d, a.atRate r = .ok d) ↔ Context.money.nearest |a.toRat * r.toRat| < 10 ^ 26 := by
  rw [atRate_eq ha hr, centsOf]
  split
  · rename_i h
    exact iff_of_true ⟨_, rfl⟩ h
  · rename_i h
    refine iff_of_false (fun ⟨d, hd⟩ => ?_) h
    split at hd <;> cases hd

theorem isCents_of_atRate (ha : a.isFinite) (hr : r.isFinite) (h : a.atRate r = .ok d) :
    d.IsCents (Tie.away.nearest (Context.money.nearest (a.toRat * r.toRat) * 100)) := by
  obtain ⟨product, hproduct, hcents⟩ := Except.bind_eq_ok_iff.1 h
  obtain ⟨hfinite, hvalue⟩ := (Context.mul_outcome Context.money_proper ha hr).of_ok hproduct
  have houtcome := toCents_outcome hfinite
  rw [nearestCents, hvalue, hcents] at houtcome
  split at houtcome
  · cases houtcome
  · obtain ⟨d', hd, hd'⟩ := houtcome
    cases hd
    exact hd'

/-- A larger amount does not come to less. -/
theorem atRate_mono {d' : Decimal} (ha : a.isFinite) (hb : b.isFinite) (hr : r.isFinite)
    (hrate : 0 ≤ r.toRat) (hle : a.toRat ≤ b.toRat) (h : a.atRate r = .ok d)
    (h' : b.atRate r = .ok d') : d.toRat ≤ d'.toRat := by
  have hproduct := Context.nearest_mono Context.money_proper
    (mul_le_mul_of_nonneg_right hle hrate)
  have hcents : Tie.away.nearest _ ≤ Tie.away.nearest _ :=
    Tie.nearest_mono (mul_le_mul_of_nonneg_right hproduct (by norm_num : (0 : ℚ) ≤ 100))
  rw [(isCents_of_atRate ha hr h).toRat_eq, (isCents_of_atRate hb hr h').toRat_eq]
  exact div_le_div_of_nonneg_right (by exact_mod_cast hcents) (by norm_num)

/-- What has room in cents has room for any smaller amount. -/
theorem atRate_ok_of_abs_le (ha : a.isFinite) (hb : b.isFinite) (hr : r.isFinite)
    (hle : |a.toRat| ≤ |b.toRat|) (h : ∃ d, b.atRate r = .ok d) : ∃ d, a.atRate r = .ok d := by
  rw [atRate_ok_iff ha hr]
  rw [atRate_ok_iff hb hr] at h
  refine (Context.nearest_mono Context.money_proper ?_).trans_lt h
  rw [abs_mul, abs_mul]
  exact mul_le_mul_of_nonneg_right hle (abs_nonneg _)

theorem atRate_zero (ha : a.isFinite) (hr : r.isFinite) (h : a.toRat = 0) :
    ∃ d, a.atRate r = .ok d ∧ d.isFinite ∧ d.toRat = 0 := by
  obtain ⟨d, hd⟩ := (atRate_ok_iff ha hr).2 (by simp [h])
  have hcents := isCents_of_atRate ha hr hd
  exact ⟨d, hd, hcents.isFinite, by simp [hcents.toRat_eq, h]⟩

theorem negative_iff (ha : a.isFinite) (h : a.toRat ≠ 0) : a.negative ↔ a.toRat < 0 := by
  obtain ⟨s, c, e, rfl⟩ := exists_finite ha
  exact (toRat_neg_iff (mt (toRat_eq_zero_iff s c e).2 h) e).symm

theorem centsOf_zero (s : Bool) : centsOf s 0 = .ok (.finite s 0 (-2)) := by
  rw [centsOf, if_pos (by norm_num), zero_mul, Tie.nearest_zero]
  rfl

theorem centsOf_not (s : Bool) (x : ℚ) : centsOf (!s) x = (centsOf s x).map (-·) := by
  rw [centsOf, centsOf]
  split
  · rfl
  split <;> rfl

theorem negative_neg (a : Decimal) : (-a).negative = !a.negative := by
  cases a <;> rfl

/-- The opposite amount comes to the opposite. -/
theorem atRate_neg (ha : a.isFinite) (hr : r.isFinite) :
    (-a).atRate r = (a.atRate r).map (-·) := by
  rw [atRate_eq ((isFinite_neg a).trans ha) hr, atRate_eq ha hr, toRat_neg, neg_mul, abs_neg,
    negative_neg, Bool.not_xor, centsOf_not]

/-- An amount without more digits than the context keeps is only rounded to cents at the rate of
one. -/
theorem atRate_one (ha : a.isFinite) (hr : r.isFinite) (hone : r.toRat = 1)
    (hfits : Context.money.Fits a.toRat) (hlt : |a.toRat| < 10 ^ (Context.money.emax + 1)) :
    a.atRate r = a.toCents := by
  have hsign : r.negative = false := by
    have hiff := negative_iff hr (by rw [hone]; norm_num)
    rw [hone] at hiff
    exact Bool.eq_false_iff.2 (mt hiff.1 (by norm_num))
  have hdigits : a.nearestCents.natAbs < 10 ^ 28 ↔ |a.toRat| < 10 ^ 26 := cents_lt_iff hfits
  rw [atRate_eq ha hr, hsign, Bool.xor_false, hone, mul_one, ← Context.abs_nearest,
    hfits.nearest_eq, centsOf, if_pos hlt]
  obtain ⟨s, c, e, rfl⟩ := exists_finite ha
  rw [toCents_finite]
  by_cases hcents : |(Decimal.finite s c e).toRat| < 10 ^ 26
  · rw [if_pos hcents, if_neg (not_le.2 (hdigits.2 hcents)), natAbs_nearestCents, abs_toRat_finite]
    rfl
  · rw [if_neg hcents, if_pos (not_lt.1 (mt hdigits.1 hcents))]

/-! ## Equal amounts -/

/-- Two results that are the same, or zeros that differ in the sign. -/
def SameCents (d d' : Decimal) : Prop := d = d' ∨ d = -d' ∧ d.isZero

theorem toRat_of_isZero (h : a.isZero) : a.toRat = 0 := by
  cases a with
  | finite s c e => exact (toRat_eq_zero_iff s c e).2 (of_decide_eq_true h)
  | infinite | nan => rfl

theorem SameCents.isFinite_eq {d d' : Decimal} (h : SameCents d d') :
    d.isFinite = d'.isFinite := by
  rcases h with rfl | ⟨rfl, -⟩
  · rfl
  · exact isFinite_neg d'

theorem SameCents.toRat_eq {d d' : Decimal} (h : SameCents d d') : d.toRat = d'.toRat := by
  rcases h with rfl | ⟨rfl, hzero⟩
  · rfl
  · have h0 := toRat_of_isZero hzero
    rw [h0]
    rw [toRat_neg, neg_eq_zero] at h0
    exact h0.symm

theorem sameCents_zero (s s' : Bool) (e : Int) : SameCents (.finite s 0 e) (.finite s' 0 e) := by
  by_cases h : s = s'
  · exact .inl (by rw [h])
  · refine .inr ⟨?_, rfl⟩
    rw [Bool.eq_not_of_ne h]
    rfl

/-- An infinite rate makes an amount that is not zero infinite, and that has no cents. -/
theorem atRate_infinite (ha : a.isFinite) (s : Bool) :
    a.atRate (.infinite s) = .error .invalidOperation := by
  obtain ⟨s', c, e, rfl⟩ := exists_finite ha
  by_cases hc : c = 0
  · subst hc
    rfl
  · have hmul : Context.money.mul (.finite s' c e) (.infinite s) = .ok (.infinite (s' ^^ s)) :=
      if_neg hc
    rw [atRate, hmul]
    rfl

/-- What an amount comes to at a rate that is not a number is the same for all. -/
theorem atRate_nan (ha : a.isFinite) (hb : b.isFinite) (s signaling : Bool) (payload : Nat) :
    a.atRate (.nan s signaling payload) = b.atRate (.nan s signaling payload) := by
  obtain ⟨s', c, e, rfl⟩ := exists_finite ha
  obtain ⟨s'', c', e', rfl⟩ := exists_finite hb
  cases signaling <;> rfl

/-- Only a finite rate leads to a finite amount. -/
theorem isFinite_of_atRate (ha : a.isFinite) (h : a.atRate r = .ok d) (hd : d.isFinite) :
    r.isFinite := by
  cases r with
  | finite s c e => rfl
  | infinite s =>
    rw [atRate_infinite ha] at h
    cases h
  | nan s signaling payload =>
    obtain ⟨s', c, e, rfl⟩ := exists_finite ha
    cases signaling with
    | true => cases h
    | false =>
      cases h
      cases hd

/-- Equal amounts with the same sign, which zero has too, come to the same. -/
theorem atRate_eq_of_negative (ha : a.isFinite) (hb : b.isFinite) (h : a.toRat = b.toRat)
    (hsign : a.negative = b.negative) (r : Decimal) : a.atRate r = b.atRate r := by
  cases r with
  | finite s c e => rw [atRate_eq ha rfl, atRate_eq hb rfl, h, hsign]
  | infinite s => rw [atRate_infinite ha, atRate_infinite hb]
  | nan s signaling payload => exact atRate_nan ha hb ..

/-- Equal amounts come to the same, but a zero may differ in the sign. -/
theorem atRate_congr (ha : a.isFinite) (hb : b.isFinite) (h : a.toRat = b.toRat) (r : Decimal) :
    Except.Alike SameCents (a.atRate r) (b.atRate r) := by
  by_cases hsign : a.negative = b.negative
  · exact (Except.Alike.of_eq (atRate_eq_of_negative ha hb h hsign r)).mono fun _ _ => .inl
  have h0 : a.toRat = 0 := by
    by_contra hne
    exact hsign (Bool.eq_iff_iff.2 (by rw [negative_iff ha hne, h, negative_iff hb (h ▸ hne)]))
  cases r with
  | finite s c e =>
    rw [atRate_eq ha rfl, atRate_eq hb rfl, ← h, h0, zero_mul, abs_zero, Context.nearest_zero,
      centsOf_zero, centsOf_zero]
    exact .ok (sameCents_zero ..)
  | infinite s =>
    rw [atRate_infinite ha, atRate_infinite hb]
    exact .error _
  | nan s signaling payload =>
    exact (Except.Alike.of_eq (atRate_nan ha hb ..)).mono fun _ _ => .inl

/-- Finite numbers of equal value. -/
def SameNumber (a b : Decimal) : Prop := a.isFinite ∧ b.isFinite ∧ a.toRat = b.toRat

/-- Operations with the same exact result come to the same number. -/
theorem Context.Outcome.alike {ctx : Context} {x : ℚ} {y y' : Except Signal Decimal}
    (h : ctx.Outcome x y) (h' : ctx.Outcome x y') : Except.Alike SameNumber y y' := by
  rw [Outcome] at h h'
  split at h
  · rename_i hover
    rw [if_pos hover] at h'
    rw [h, h']
    exact .error _
  · rename_i hover
    rw [if_neg hover] at h'
    obtain ⟨d, rfl, hfinite, hvalue⟩ := h
    obtain ⟨d', rfl, hfinite', hvalue'⟩ := h'
    exact .ok ⟨hfinite, hfinite', hvalue.trans hvalue'.symm⟩

end

/-! ## Sums -/

/-- The last digit kept of a number below `10 ^ 25` stands behind its cents. -/
theorem cut_le {x : ℚ} (h : |x| < 10 ^ (25 : Int)) :
    Context.money.cut (Int.log 10 |x| + 1) ≤ -3 := by
  have hlog : Int.log 10 |x| < 25 := by
    by_cases hx : x = 0
    · simp [hx]
    · exact (Int.lt_zpow_iff_log_lt (by decide) (abs_pos.2 hx)).1 (by exact_mod_cast h)
  simp only [Context.cut, Context.etiny, Context.money]
  omega

/-- The two roundings together err by little more than half a cent. Where the first one cuts off
digits behind the cents its error is small, and where it cuts off more there is nothing left for the
second. -/
theorem abs_product_cents_sub_le {x : ℚ} (h : |Context.money.nearest x| < 10 ^ 26) :
    |(Tie.away.nearest (Context.money.nearest x * 100) : ℚ) - x * 100| ≤ 11 / 20 := by
  have hfits : Context.money.Fits (10 ^ (26 : Int)) :=
    Context.fits_zpow Context.money_proper (by decide)
  have hround := Context.money.abs_nearest_sub_le_cut x
  rcases lt_or_ge |x| (10 ^ (25 : Int)) with hsmall | hlarge
  · have hcut : (10 : ℚ) ^ Context.money.cut (Int.log 10 |x| + 1) ≤ 10 ^ (-3 : Int) :=
      zpow_le_zpow_right₀ (by norm_num) (cut_le hsmall)
    have hcents := Tie.away.abs_nearest_sub_le (Context.money.nearest x * 100)
    have htri := abs_sub_le (Tie.away.nearest (Context.money.nearest x * 100) : ℚ)
      (Context.money.nearest x * 100) (x * 100)
    rw [← sub_mul, abs_mul, abs_of_pos (by norm_num : (0 : ℚ) < 100)] at htri
    norm_num at hcut
    linarith
  · have hx : |x| < 10 ^ (26 : Int) := by
      by_contra hle
      have hle := Context.le_nearest Context.money_proper hfits (not_lt.1 hle)
      rw [← Context.abs_nearest, zpow_ofNat] at hle
      exact hle.not_gt h
    have hcut : Context.money.cut (Int.log 10 |x| + 1) = -2 := by
      rw [log_eq_of_bounds hlarge hx]
      decide
    have hwhole :
        Context.money.nearest x * 100 = (Tie.toEven.nearest (x / 10 ^ (-2 : Int)) : ℤ) := by
      rw [Context.nearest, hcut, mul_assoc]
      norm_num
    rw [hcut] at hround
    rw [hwhole, Tie.nearest_intCast, ← hwhole, ← sub_mul, abs_mul,
      abs_of_pos (by norm_num : (0 : ℚ) < 100)]
    norm_num at hround
    linarith

section
variable {a r d : Decimal}

/-- The cents that an amount comes to, and how far they are from the exact product. -/
theorem exists_cents_of_atRate (ha : a.isFinite) (hr : r.isFinite) (h : a.atRate r = .ok d) :
    ∃ n : ℤ, d.toRat = n / 100 ∧ |(n : ℚ) - a.toRat * r.toRat * 100| ≤ 11 / 20 := by
  refine ⟨_, (isCents_of_atRate ha hr h).toRat_eq, abs_product_cents_sub_le ?_⟩
  rw [Context.abs_nearest]
  exact (atRate_ok_iff ha hr).1 ⟨d, h⟩

/-- A sum comes to what its parts come to, up to a cent. -/
theorem atRate_add {b c d' d'' : Decimal} (ha : a.isFinite) (hb : b.isFinite) (hc : c.isFinite)
    (hr : r.isFinite) (hsum : c.toRat = a.toRat + b.toRat) (h : a.atRate r = .ok d)
    (h' : b.atRate r = .ok d') (h'' : c.atRate r = .ok d'') :
    |d''.toRat - (d.toRat + d'.toRat)| ≤ 1 / 100 := by
  obtain ⟨m, hd, hm⟩ := exists_cents_of_atRate ha hr h
  obtain ⟨m', hd', hm'⟩ := exists_cents_of_atRate hb hr h'
  obtain ⟨m'', hd'', hm''⟩ := exists_cents_of_atRate hc hr h''
  -- Three errors make less than two cents, and the difference is a whole number of them.
  have hlt : |((m'' - (m + m') : ℤ) : ℚ)| < (2 : ℤ) := by
    rw [hsum] at hm''
    rw [abs_le] at hm hm' hm''
    rw [abs_lt]
    push_cast
    constructor <;> linarith
  have hle : |((m'' - (m + m') : ℤ) : ℚ)| ≤ (1 : ℤ) := by
    rw [← Int.cast_abs, Int.cast_lt] at hlt
    rw [← Int.cast_abs, Int.cast_le]
    omega
  rw [hd, hd', hd'', ← add_div, ← sub_div, abs_div, abs_of_pos (by norm_num : (0 : ℚ) < 100)]
  push_cast at hle
  exact div_le_div_of_nonneg_right hle (by norm_num)

end

end DatedMoney.Decimal
