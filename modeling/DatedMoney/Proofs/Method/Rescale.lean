import DatedMoney.Method
import DatedMoney.Proofs.Checking.Draft
import DatedMoney.Proofs.Decimal.Rate
import DatedMoney.Proofs.Index.Reference

/-!
# Values carried over by an index

The amount that is computed is rounded three times: the rate and the product to the digits that the
context keeps, and at last to cents. What comes out is what the exact amount rounds to unless a half
cent lies between the exact amount and the product as computed (`apply_reference`).
-/

namespace DatedMoney.Method
open Decimal

theorem signaled_ok (a : α) : signaled (.ok a) = .ok a := rfl

theorem signaled_bind (x : Except Signal α) (f : α → Except Signal β) :
    signaled (x >>= f) = signaled x >>= fun a => signaled (f a) := by
  cases x <;> rfl

theorem carryOver_eq_ok_iff {name : String} {v w : Value} {amount : Decimal}
    {target : Checking.LooseDate} :
    carryOver name v amount target = .ok w ↔ (amount.isFinite ∧ w.amount = amount) ∧
      w.currency = v.currency ∧
      (∃ parts, target.parts "" = .ok parts ∧ parts.date [] "" = .ok w.date) ∧
      ∃ hname, w.provenance = some ⟨name, v.date, hname⟩ := by
  rw [carryOver, Except.bind_eq_ok_iff]
  constructor
  · rintro ⟨⟨method, source, hmethod⟩, hcheck, hvalue⟩
    obtain ⟨hname, parts, hparts, hsource⟩ := Checking.LooseProvenance.check_eq_ok_iff.1 hcheck
    obtain rfl : name = method := Json.string.inj hname
    obtain ⟨parts', hparts', hsource'⟩ := Checking.date_parts_ofDate "source_" v.date
    cases hparts.symm.trans hparts'
    cases hsource.symm.trans hsource'
    obtain ⟨hamount, hcurrency, hdate, hprovenance⟩ := Checking.value_eq_ok_iff.1 hvalue
    rw [Checking.currency_code, Except.ok.injEq] at hcurrency
    exact ⟨hamount, hcurrency.symm, hdate, hmethod, hprovenance⟩
  · rintro ⟨hamount, hcurrency, hdate, hname, hprovenance⟩
    refine ⟨_, Checking.LooseProvenance.check_ofDate hname v.date, ?_⟩
    rw [← hcurrency]
    exact Checking.value_eq_ok_iff.2 ⟨hamount, Checking.currency_code _, hdate, hprovenance⟩

theorem carryOver_ofDate {name : String} (hname : name ≠ "") (v : Value) {amount : Decimal}
    (h : amount.isFinite) (target : Date) :
    carryOver name v amount target =
      .ok ⟨amount, v.currency, target, some ⟨name, v.date, hname⟩⟩ :=
  carryOver_eq_ok_iff.2 ⟨⟨h, rfl⟩, rfl, Checking.date_parts_ofDate "" target, hname, rfl⟩

/-- What a method by an index makes of a value, in its steps. -/
theorem rescale_eq_ok_iff {t : Index.Table} {name : String} {v w : Value}
    {target : Checking.LooseDate} :
    rescale t v target name = .ok w ↔ ∃ a b rate scaled cents,
      t.valueFor v.date.year = .ok a ∧ t.valueAt target.year = .ok b ∧
      Context.money.div b a = .ok rate ∧ Context.money.mul v.amount rate = .ok scaled ∧
      scaled.toCents = .ok cents ∧ carryOver name v cents target = .ok w := by
  simp only [rescale, Except.bind_eq_ok_iff, signaled, Except.mapError_eq_ok_iff]
  constructor
  · rintro ⟨a, ha, b, hb, rate, hrate, scaled, hscaled, cents, hcents, hw⟩
    exact ⟨a, b, rate, scaled, cents, ha, hb, hrate, hscaled, hcents, hw⟩
  · rintro ⟨a, b, rate, scaled, cents, ha, hb, hrate, hscaled, hcents, hw⟩
    exact ⟨a, ha, b, hb, rate, hrate, scaled, hscaled, cents, hcents, hw⟩

/-- What becomes of a value if all parts of the computation succeed. -/
theorem rescale_eq {t : Index.Table} {name : String} (hname : name ≠ "") {v : Value}
    {target : Date} {a b rate scaled cents : Decimal}
    (ha : t.valueFor v.date.year = .ok a) (hb : t.valueFor target.year = .ok b)
    (hrate : Context.money.div b a = .ok rate)
    (hscaled : Context.money.mul v.amount rate = .ok scaled)
    (hcents : scaled.toCents = .ok cents) (hfinite : cents.isFinite) :
    rescale t v target name = .ok ⟨cents, v.currency, target, some ⟨name, v.date, hname⟩⟩ := by
  have hyear : t.valueAt (Checking.LooseDate.ofDate target).year = .ok b :=
    (t.valueAt_int target.year).trans hb
  exact rescale_eq_ok_iff.2 ⟨a, b, rate, scaled, cents, ha, hyear, hrate, hscaled, hcents,
    carryOver_ofDate hname v hfinite target⟩

/-! ## The outcome -/

/-- The outcome of carrying a value over if its amount comes to `x` before it is rounded to cents:
a value, unless that takes too many digits. -/
def CarriesTo (p : Provenance) (c : Currency) (target : Date) (x : ℚ) (r : Except Error Value) :
    Prop :=
  if (10 : ℚ) ^ (Context.money.emax + 1) ≤ |x| then r = .error (.signal .overflow)
  else if 10 ^ 28 ≤ (Tie.away.nearest (x * 100)).natAbs then
    r = .error (.signal .invalidOperation)
  else ∃ a : Decimal, r = .ok ⟨a, c, target, some p⟩ ∧ a.IsCents (Tie.away.nearest (x * 100))

theorem abs_lt_of_cents {x : ℚ} (h : (Tie.away.nearest (x * 100)).natAbs < 10 ^ 28) :
    |x| < 10 ^ (Context.money.emax + 1) := by
  have habs : |(Tie.away.nearest (x * 100) : ℚ)| < 10 ^ 28 := by
    rw [← Int.cast_abs, Int.abs_eq_natAbs, Int.cast_natCast]
    exact_mod_cast h
  have hround := abs_le.1 (Tie.away.abs_nearest_sub_le (x * 100))
  have hsize : |x| < 10 ^ (27 : Int) := by
    rw [abs_lt] at habs ⊢
    norm_num at habs hround ⊢
    constructor <;> linarith
  exact hsize.trans_le (zpow_le_zpow_right₀ (by norm_num) (by decide))

theorem CarriesTo.ok_iff {p : Provenance} {c : Currency} {target : Date} {x : ℚ}
    {r : Except Error Value} (h : CarriesTo p c target x r) :
    (∃ w, r = .ok w) ↔ (Tie.away.nearest (x * 100)).natAbs < 10 ^ 28 := by
  rw [CarriesTo] at h
  split at h
  · rename_i hover
    subst h
    exact iff_of_false (fun ⟨_, hw⟩ => nomatch hw)
      fun hlt => absurd hover (abs_lt_of_cents hlt).not_ge
  split at h
  · rename_i hdigits
    subst h
    exact iff_of_false (fun ⟨_, hw⟩ => nomatch hw) hdigits.not_gt
  · rename_i hdigits
    obtain ⟨a, rfl, -⟩ := h
    exact iff_of_true ⟨_, rfl⟩ (not_le.1 hdigits)

theorem CarriesTo.of_ok {p : Provenance} {c : Currency} {target : Date} {x : ℚ} {w : Value}
    (h : CarriesTo p c target x (.ok w)) : (Tie.away.nearest (x * 100)).natAbs < 10 ^ 28 ∧
      ∃ a : Decimal, w = ⟨a, c, target, some p⟩ ∧ a.IsCents (Tie.away.nearest (x * 100)) := by
  refine ⟨h.ok_iff.1 ⟨w, rfl⟩, ?_⟩
  rw [CarriesTo] at h
  split at h
  · cases h
  split at h
  · cases h
  · obtain ⟨a, hw, ha⟩ := h
    exact ⟨a, Except.ok.inj hw, ha⟩

theorem rescale_outcome {t : Index.Table} {name : String} (hname : name ≠ "") {v : Value}
    (hv : v.amount.isFinite) {target : Date} {a b rate : Decimal}
    (ha : t.valueFor v.date.year = .ok a)
    (hb : t.valueFor target.year = .ok b) (hrate : Context.money.div b a = .ok rate)
    (hfinite : rate.isFinite) :
    CarriesTo ⟨name, v.date, hname⟩ v.currency target
      (Context.money.nearest (v.amount.toRat * rate.toRat)) (rescale t v target name) := by
  have hyear : t.valueAt (Checking.LooseDate.ofDate target).year = .ok b :=
    (t.valueAt_int target.year).trans hb
  have hrescale : rescale t v target name =
      signaled (v.amount.atRate rate) >>= fun a => carryOver name v a target := by
    simp only [rescale, ha, hyear, hrate, signaled_ok, Except.ok_bind, atRate, signaled_bind,
      bind_assoc]
  have hdigits := cents_lt_iff
    (Context.fits_nearest Context.money_proper (v.amount.toRat * rate.toRat))
  have hatRate := atRate_eq hv hfinite
  rw [centsOf, ← Context.abs_nearest] at hatRate
  rw [CarriesTo, hrescale]
  split
  · rename_i hover
    rw [hatRate, if_neg (pow_le_emax.trans hover).not_gt, if_neg hover.not_gt]
    rfl
  rename_i hover
  split
  · rename_i hlarge
    rw [hatRate, if_neg (mt hdigits.2 hlarge.not_gt), if_pos (not_le.1 hover)]
    rfl
  · rename_i hlarge
    have hok := hatRate.trans (if_pos (hdigits.1 (not_le.1 hlarge)))
    have hcents := isCents_of_atRate hv hfinite hok
    exact ⟨_, by rw [hok]; exact carryOver_ofDate hname v hcents.isFinite target, hcents⟩

/-! ## The error of the product -/

/-- The amount before it is rounded to cents, as it is computed. -/
def computed (amount rate : ℚ) : ℚ := Context.money.nearest (amount * Context.money.nearest rate)

/-- The outcome where there is a rate between the two years. -/
theorem rescale_computed {t : Index.Table} {name : String} (hname : name ≠ "") {v : Value}
    (hv : v.amount.isFinite) {target : Date} {a b : Decimal} (ha : t.valueFor v.date.year = .ok a)
    (hafinite : a.isFinite) (hb : t.valueFor target.year = .ok b) (hbfinite : b.isFinite)
    (hne : a.toRat ≠ 0) (hrate : |b.toRat / a.toRat| ≤ 10 ^ Context.money.emax) :
    CarriesTo ⟨name, v.date, hname⟩ v.currency target
      (computed v.amount.toRat (b.toRat / a.toRat)) (rescale t v target name) := by
  obtain ⟨rate, hdiv, hfinite, hvalue⟩ :=
    Context.div_spec Context.money_proper hbfinite hafinite hne hrate
  rw [computed, ← hvalue]
  exact rescale_outcome hname hv ha hb hdiv hfinite

/-- The relative error of the two roundings. The exponent limits play no part in it. -/
theorem computed_error {a r : ℚ} (hr : 10 ^ (-2000 : Int) ≤ r)
    (ha : a = 0 ∨ 10 ^ (-1000 : Int) ≤ |a|) :
    |computed a r - a * r| ≤ |a * r| * (2 * 10 ^ (-27 : Int)) := by
  rcases ha with rfl | ha
  · simp [computed]
  have hpos : 0 < r := (ten_zpow_pos _).trans_le hr
  have hfits : Context.money.Fits (10 ^ (-2000 : Int)) :=
    Context.fits_zpow Context.money_proper (by decide)
  have hle := Context.le_nearest Context.money_proper hfits hr
  have hrate := Context.abs_money_nearest_sub_le (by decide) (hr.trans (le_abs_self r))
  rw [abs_of_pos hpos] at hrate
  rw [computed]
  generalize Context.money.nearest r = r' at *
  have hpos' : 0 < r' := (ten_zpow_pos _).trans_le hle
  have hsize : (10 : ℚ) ^ (-3000 : Int) ≤ |a * r'| := by
    rw [abs_mul, abs_of_pos hpos', show (-3000 : Int) = -1000 + -2000 by rfl, ten_zpow_add]
    exact mul_le_mul ha hle (ten_zpow_pos _).le (abs_nonneg a)
  have hproduct := Context.abs_money_nearest_sub_le (by decide) hsize
  have hr' : r' ≤ r + r * 10 ^ (-27 : Int) / 2 := by linarith only [(abs_le.1 hrate).2]
  calc |Context.money.nearest (a * r') - a * r|
      ≤ |Context.money.nearest (a * r') - a * r'| + |a * r' - a * r| := abs_sub_le ..
    _ ≤ |a * r'| * 10 ^ (-27 : Int) / 2 + |a| * (r * 10 ^ (-27 : Int) / 2) := by
      rw [← mul_sub, abs_mul a (r' - r)]
      exact add_le_add hproduct (mul_le_mul_of_nonneg_left hrate (abs_nonneg a))
    _ ≤ |a| * (r + r * 10 ^ (-27 : Int) / 2) * 10 ^ (-27 : Int) / 2 +
          |a| * (r * 10 ^ (-27 : Int) / 2) := by
      rw [abs_mul, abs_of_pos hpos']
      gcongr
    _ = |a * r| * (10 ^ (-27 : Int) + (10 ^ (-27 : Int)) ^ 2 / 4) := by
      rw [abs_mul, abs_of_pos hpos]
      ring
    _ ≤ |a * r| * (2 * 10 ^ (-27 : Int)) :=
      mul_le_mul_of_nonneg_left (by norm_num) (abs_nonneg _)

theorem le_ten_zpow_emax {x : ℚ} (h : x ≤ 10 ^ (25 : Int)) : x ≤ 10 ^ Context.money.emax :=
  h.trans (zpow_le_zpow_right₀ (by norm_num) (by decide))

/-- The rate between two values of reference tables. -/
theorem rate_bounds {x y : ℚ} (hx : 9 ≤ x) (hx' : x ≤ 60000) (hy : 9 ≤ y) (hy' : y ≤ 60000) :
    10 ^ (-4 : Int) ≤ y / x ∧ y / x ≤ 10 ^ 4 := by
  have hpos : 0 < x := by linarith
  constructor
  · rw [le_div_iff₀ hpos]
    norm_num
    linarith
  · rw [div_le_iff₀ hpos]
    linarith

section
variable {a r : ℚ} (hr : 10 ^ (-4 : Int) ≤ r) (hr' : r ≤ 10 ^ 4)
include hr

theorem abs_rate_sub_le : |Context.money.nearest r - r| ≤ r * 10 ^ (-27 : Int) / 2 := by
  have hpos : 0 < r := (ten_zpow_pos _).trans_le hr
  have h := Context.abs_money_nearest_sub_le (x := r) (k := -4) (by decide)
    (by rwa [abs_of_pos hpos])
  rwa [abs_of_pos hpos] at h

theorem le_rate : 10 ^ (-5 : Int) ≤ Context.money.nearest r := by
  have h := abs_le.1 (abs_rate_sub_le hr)
  norm_num at h hr ⊢
  linarith

theorem rate_le : Context.money.nearest r ≤ 2 * r := by
  have hpos : 0 < r := (ten_zpow_pos _).trans_le hr
  have h := (abs_le.1 (abs_rate_sub_le hr)).2
  norm_num at h
  linarith

/-- Two roundings of the digits that the context keeps hardly change the product. -/
theorem abs_computed_sub_le (ha : a = 0 ∨ 10 ^ (-2 : Int) ≤ |a|) :
    |computed a r - a * r| ≤ |a * r| * 10 ^ (-26 : Int) := by
  have hr2000 : (10 : ℚ) ^ (-2000 : Int) ≤ r :=
    (zpow_le_zpow_right₀ (by norm_num) (by decide)).trans hr
  have ha1000 : a = 0 ∨ (10 : ℚ) ^ (-1000 : Int) ≤ |a| :=
    ha.imp_right (zpow_le_zpow_right₀ (by norm_num) (by decide)).trans
  exact (computed_error hr2000 ha1000).trans
    (mul_le_mul_of_nonneg_left (by norm_num) (abs_nonneg _))

omit hr in
theorem computed_sign (a : ℚ) (hr : 0 ≤ r) :
    0 ≤ a * r ∧ 0 ≤ computed a r ∨ a * r ≤ 0 ∧ computed a r ≤ 0 := by
  have hrate : 0 ≤ Context.money.nearest r := Context.nearest_nonneg hr
  rcases le_total 0 a with ha | ha
  · exact .inl ⟨mul_nonneg ha hr, Context.nearest_nonneg (mul_nonneg ha hrate)⟩
  · refine .inr ⟨mul_nonpos_of_nonpos_of_nonneg ha hr, ?_⟩
    have h : 0 ≤ Context.money.nearest (-a * Context.money.nearest r) :=
      Context.nearest_nonneg (mul_nonneg (neg_nonneg.2 ha) hrate)
    rw [neg_mul, Context.nearest_neg] at h
    exact neg_nonneg.1 h

include hr'

theorem abs_mul_rate_le (hlt : |a| < 10 ^ 20) :
    |a * Context.money.nearest r| ≤ 10 ^ (25 : Int) := by
  have hrate := rate_le hr
  have hpos : 0 ≤ Context.money.nearest r := (ten_zpow_pos _).le.trans (le_rate hr)
  rw [abs_mul, abs_of_nonneg hpos]
  calc |a| * Context.money.nearest r ≤ 10 ^ 20 * (2 * 10 ^ 4) :=
        mul_le_mul hlt.le (by linarith) hpos (by norm_num)
    _ ≤ 10 ^ (25 : Int) := by norm_num

theorem abs_product_lt (hlt : |a| < 10 ^ 20) : |a * r| < 10 ^ 24 := by
  have hpos : 0 < r := (ten_zpow_pos _).trans_le hr
  rw [abs_mul, abs_of_pos hpos]
  calc |a| * r ≤ |a| * 10 ^ 4 := mul_le_mul_of_nonneg_left hr' (abs_nonneg a)
    _ < 10 ^ 20 * 10 ^ 4 := mul_lt_mul_of_pos_right hlt (by norm_num)
    _ = 10 ^ 24 := by norm_num

/-- The error is less than a cent. -/
theorem abs_computed_sub_lt (ha : a = 0 ∨ 10 ^ (-2 : Int) ≤ |a|) (hlt : |a| < 10 ^ 20) :
    |computed a r * 100 - a * r * 100| < 1 := by
  have herror := abs_computed_sub_le hr ha
  have hsize := abs_product_lt hr hr' hlt
  rw [← sub_mul, abs_mul, abs_of_pos (by norm_num : (0 : ℚ) < 100)]
  norm_num at herror hsize
  linarith

/-- The cents do not have more digits than the context keeps. -/
theorem natAbs_nearest_lt (ha : a = 0 ∨ 10 ^ (-2 : Int) ≤ |a|) (hlt : |a| < 10 ^ 20) :
    (Tie.away.nearest (computed a r * 100)).natAbs < 10 ^ 28 := by
  have hsize := abs_lt.1 (abs_product_lt hr hr' hlt)
  have hclose := abs_lt.1 (abs_computed_sub_lt hr hr' ha hlt)
  refine (cents_lt_iff (Context.fits_nearest Context.money_proper _)).2 ?_
  rw [← computed, abs_lt]
  norm_num at hsize hclose ⊢
  constructor <;> linarith

end

/-- The outcome for a reference table. It has a rate between any two years. -/
theorem apply_reference_outcome {t : Index.Table} (ht : t ∈ [Index.cpi, Index.wage, Index.gold])
    {v : Value} (hv : v.amount.isFinite) (target : Date) :
    ∃ a b, t.valueFor v.date.year = .ok a ∧ t.valueFor target.year = .ok b ∧
      (10 ^ (-4 : Int) ≤ b.toRat / a.toRat ∧ b.toRat / a.toRat ≤ 10 ^ 4) ∧
      CarriesTo ⟨t.name, v.date, Index.name_ne ht⟩ v.currency target
        (computed v.amount.toRat (b.toRat / a.toRat)) ((Method.index t).apply v target) := by
  obtain ⟨a, ha, hafinite, halow, hahigh⟩ := Index.valueFor_reference ht v.date.year
  obtain ⟨b, hb, hbfinite, hblow, hbhigh⟩ := Index.valueFor_reference ht target.year
  obtain ⟨hlow, hhigh⟩ := rate_bounds halow hahigh hblow hbhigh
  have hapos : 0 < a.toRat := by linarith
  have hpos : 0 < b.toRat / a.toRat := (ten_zpow_pos _).trans_le hlow
  have hsize : |b.toRat / a.toRat| ≤ 10 ^ Context.money.emax := by
    refine le_ten_zpow_emax ?_
    rw [abs_of_pos hpos]
    norm_num at hhigh ⊢
    linarith
  exact ⟨a, b, ha, hb, ⟨hlow, hhigh⟩,
    rescale_computed (Index.name_ne ht) hv ha hafinite hb hbfinite hapos.ne' hsize⟩

/-- Every amount of moderate size can be carried over by a reference table. -/
theorem apply_reference_eq {t : Index.Table} (ht : t ∈ [Index.cpi, Index.wage, Index.gold])
    {v : Value} (hv : v.amount.isFinite)
    (hmin : v.amount.toRat = 0 ∨ 10 ^ (-2 : Int) ≤ |v.amount.toRat|)
    (hlt : |v.amount.toRat| < 10 ^ 20) (target : Date) :
    ∃ a b w, t.valueFor v.date.year = .ok a ∧ t.valueFor target.year = .ok b ∧
      (10 ^ (-4 : Int) ≤ b.toRat / a.toRat ∧ b.toRat / a.toRat ≤ 10 ^ 4) ∧
      (Method.index t).apply v target = .ok w ∧
      w.amount.toRat =
        Tie.away.nearest (computed v.amount.toRat (b.toRat / a.toRat) * 100) / 100 := by
  obtain ⟨a, b, ha, hb, ⟨hlow, hhigh⟩, houtcome⟩ := apply_reference_outcome ht hv target
  have hproduct := abs_mul_rate_le hlow hhigh hlt
  have hsize : |computed v.amount.toRat (b.toRat / a.toRat)| < _ :=
    Context.abs_nearest_lt Context.money_proper (le_ten_zpow_emax hproduct)
  have hdigits := natAbs_nearest_lt hlow hhigh hmin hlt
  rw [CarriesTo, if_neg hsize.not_ge, if_neg hdigits.not_ge] at houtcome
  obtain ⟨cents, hw, hcents⟩ := houtcome
  exact ⟨a, b, _, ha, hb, ⟨hlow, hhigh⟩, hw, hcents.toRat_eq⟩

/-- What comes out is the exact amount rounded to cents unless a half cent lies between that amount
and the product as computed. That takes an exact amount that is very close to a half cent, and then
the result is a cent off. -/
theorem apply_reference {t : Index.Table} (ht : t ∈ [Index.cpi, Index.wage, Index.gold]) {v : Value}
    (hv : v.amount.isFinite) (hcents : ∃ n : ℤ, v.amount.toRat * 100 = n)
    (hlt : |v.amount.toRat| < 10 ^ 20) (target : Date) :
    ∃ a b w, t.valueFor v.date.year = .ok a ∧ t.valueFor target.year = .ok b ∧
      (Method.index t).apply v target = .ok w ∧
      let exact := v.amount.toRat * b.toRat / a.toRat * 100
      let product := computed v.amount.toRat (b.toRat / a.toRat) * 100
      w.amount.toRat = Tie.away.nearest product / 100 ∧
      (w.amount.toRat = Tie.away.nearest exact / 100 ↔ Tie.SameSide exact product) ∧
      ((∀ k : ℕ, |exact| * 10 ^ (-26 : Int) < |(k : ℚ) + 1 / 2 - abs exact|) →
        w.amount.toRat = Tie.away.nearest exact / 100) ∧
      |w.amount.toRat - Tie.away.nearest exact / 100| ≤ 1 / 100 := by
  have hmin := eq_zero_or_cent_le hcents
  obtain ⟨a, b, w, ha, hb, ⟨hlow, hhigh⟩, hw, hval⟩ := apply_reference_eq ht hv hmin hlt target
  have herror := abs_computed_sub_le hlow hmin
  have hclose := abs_computed_sub_lt hlow hhigh hmin hlt
  have hsign := computed_sign v.amount.toRat ((ten_zpow_pos _).trans_le hlow).le
  refine ⟨a, b, w, ha, hb, hw, ?_⟩
  dsimp only
  rw [hval, mul_div_assoc]
  generalize computed v.amount.toRat (b.toRat / a.toRat) = y at *
  generalize v.amount.toRat * (b.toRat / a.toRat) = x at *
  have hsame : Tie.away.nearest (y * 100) / 100 = (Tie.away.nearest (x * 100) / 100 : ℚ) ↔
      Tie.SameSide (x * 100) (y * 100) := by
    have h100 : (0 : ℚ) ≤ 100 := by norm_num
    rw [div_left_inj' (by norm_num), Int.cast_inj, eq_comm]
    refine Tie.away_nearest_eq_iff (hsign.imp ?_ ?_)
    · exact fun h => ⟨mul_nonneg h.1 h100, mul_nonneg h.2 h100⟩
    · exact fun h => ⟨mul_nonpos_of_nonpos_of_nonneg h.1 h100,
        mul_nonpos_of_nonpos_of_nonneg h.2 h100⟩
  refine ⟨rfl, hsame, fun hfar => hsame.2 (.of_abs_sub_le ?_ hfar), ?_⟩
  · have h100 : |(100 : ℚ)| = 100 := by norm_num
    rw [← sub_mul, abs_mul, abs_mul, h100, mul_right_comm, abs_sub_comm]
    exact mul_le_mul_of_nonneg_right herror (by norm_num)
  · have h : |((Tie.away.nearest (y * 100) - Tie.away.nearest (x * 100) : ℤ) : ℚ)| ≤ (1 : ℤ) := by
      exact_mod_cast Tie.abs_nearest_sub_nearest_le hclose
    rw [← sub_div, abs_div, ← Int.cast_sub]
    norm_num at h ⊢
    linarith

/-- From 9.9 to 19.05, 33 cents become 63.5 cents, which are rounded down. -/
theorem apply_reference_half_cent :
    ∃ a b w, Index.cpi.valueFor 1913 = .ok a ∧ Index.cpi.valueFor 1945 = .ok b ∧
      (Method.index Index.cpi).apply ⟨.finite false 33 (-2), .usd, .yearly 1913, none⟩
        (Checking.LooseDate.ofDate (.yearly 1945)) = .ok w ∧
      33 / 100 * b.toRat / a.toRat * 100 = 63 + 1 / 2 ∧
      Tie.away.nearest (33 / 100 * b.toRat / a.toRat * 100) = 64 ∧
      w.amount.toRat = 63 / 100 ∧
      ¬Tie.SameSide (33 / 100 * b.toRat / a.toRat * 100)
        (computed (33 / 100) (b.toRat / a.toRat) * 100) := by
  have hamount : (Decimal.finite false 33 (-2)).toRat = 33 / 100 := by
    rw [toRat_nonnegative]
    norm_num
  obtain ⟨a, b, w, ha, hb, hw, -, hsame, -⟩ := apply_reference (t := Index.cpi) (by simp)
    (v := ⟨.finite false 33 (-2), .usd, .yearly 1913, none⟩) rfl ⟨33, by rw [hamount]; norm_num⟩
    (by rw [hamount]; norm_num) (.yearly 1945)
  have hexact : 33 / 100 * b.toRat / a.toRat * 100 = 63 + 1 / 2 := by
    cases ha.symm.trans (by rfl : Index.cpi.valueFor 1913 = .ok (.finite false 99 (-1)))
    cases hb.symm.trans (by rfl : Index.cpi.valueFor 1945 = .ok (.finite false 1905 (-2)))
    rw [toRat_nonnegative, toRat_nonnegative]
    norm_num
  have hnearest : Tie.away.nearest (33 / 100 * b.toRat / a.toRat * 100) = 64 := by
    rw [hexact]
    exact Tie.nearest_half 63
  have hresult : w.amount.toRat = 63 / 100 := by
    cases hw.symm.trans (by rfl :
      (Method.index Index.cpi).apply ⟨.finite false 33 (-2), .usd, .yearly 1913, none⟩
        (Checking.LooseDate.ofDate (.yearly 1945)) =
      .ok ⟨.finite false 63 (-2), .usd, .yearly 1945, some ⟨"CPI", .yearly 1913, _⟩⟩)
    rw [toRat_nonnegative]
    norm_num
  refine ⟨a, b, w, ha, hb, hw, hexact, hnearest, hresult, ?_⟩
  rw [hamount] at hsame
  rw [← hsame, hresult, hnearest]
  norm_num

end DatedMoney.Method
