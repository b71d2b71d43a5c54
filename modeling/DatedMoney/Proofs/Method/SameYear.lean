import DatedMoney.Proofs.Method.Amount

/-!
# Conversions within a year

The rate from a year to itself is exactly one (`Index.Table.rateAt_self`), so all that is left of a
conversion is the rounding to cents (`Method.apply_same_year`).
-/

namespace DatedMoney

/-- A value that was rounded before is no hindrance: its quotient with itself is one. -/
theorem Index.Table.rateAt_self {t : Table} {y : Int} {a : Decimal} (ha : t.valueFor y = .ok a)
    (hfinite : a.isFinite) (hne : a.toRat ≠ 0) :
    ∃ r, t.rateAt (.int y) (.int y) = .ok r ∧ r.isFinite ∧ r.toRat = 1 := by
  have hproper := Decimal.Context.money_proper
  have hself : a.toRat / a.toRat = 10 ^ (0 : Int) := by rw [div_self hne, zpow_zero]
  have hfits : Decimal.Context.money.Fits (a.toRat / a.toRat) :=
    hself ▸ Decimal.Context.fits_zpow hproper (by decide)
  have hsize : |a.toRat / a.toRat| ≤ 10 ^ Decimal.Context.money.emax := by
    rw [hself, abs_of_pos (Decimal.ten_zpow_pos 0)]
    exact zpow_le_zpow_right₀ (by norm_num) (by decide)
  obtain ⟨r, hr, hrfinite, hvalue⟩ :=
    Decimal.Context.div_spec hproper hfinite hfinite hne hsize
  refine ⟨r, ?_, hrfinite, by rw [hvalue, hfits.nearest_eq, div_self hne]⟩
  rw [t.rateAt_int ha ha, hr]
  rfl

namespace Method
open Decimal

/-- The numbers of at most 28 digits, the last of them at an exponent from -1000 to 1000. -/
def Moderate (x : ℚ) : Prop :=
  ∃ (m : ℤ) (k : Int), x = m * 10 ^ k ∧ |m| < 10 ^ 28 ∧ -1000 ≤ k ∧ k ≤ 1000

theorem Moderate.fits {x : ℚ} (h : Moderate x) : Context.money.Fits x := by
  obtain ⟨m, k, hx, hm, hk, -⟩ := h
  exact ⟨m, k, hx, hm, hk.trans' (by decide)⟩

theorem Moderate.abs_lt {x : ℚ} (h : Moderate x) : |x| < 10 ^ (Context.money.emax + 1) := by
  obtain ⟨m, k, rfl, hm, -, hk⟩ := h
  have hm : |(m : ℚ)| < 10 ^ (28 : Int) := by
    rw [zpow_ofNat]
    exact_mod_cast hm
  calc |(m * 10 ^ k : ℚ)| = |(m : ℚ)| * 10 ^ k := by rw [abs_mul, abs_of_pos (ten_zpow_pos k)]
    _ < 10 ^ (28 : Int) * 10 ^ k := mul_lt_mul_of_pos_right hm (ten_zpow_pos k)
    _ = 10 ^ (28 + k) := (ten_zpow_add ..).symm
    _ ≤ 10 ^ (Context.money.emax + 1) :=
      zpow_le_zpow_right₀ (by norm_num) (by simp only [Context.money]; omega)

/-- Whole cents below `10 ^ 26` are moderate. -/
theorem moderate_of_cents {x : ℚ} (h : ∃ n : ℤ, x * 100 = n) (hlt : |x| < 10 ^ 26) :
    Moderate x := by
  obtain ⟨n, hn⟩ := h
  refine ⟨n, -2, ?_, ?_, by decide, by decide⟩
  · rw [← hn]
    ring
  · have hn' : |(n : ℚ)| < 10 ^ 28 := by
      rw [← hn, abs_mul, abs_of_pos (by norm_num : (0 : ℚ) < 100)]
      linarith
    exact_mod_cast hn'

/-- Whole cents below `10 ^ 26` are rounded to themselves. -/
theorem toCents_of_cents {a : Decimal} (ha : a.isFinite) (h : ∃ n : ℤ, a.toRat * 100 = n)
    (hlt : |a.toRat| < 10 ^ 26) : ∃ d, a.toCents = .ok d ∧ d.toRat = a.toRat := by
  have hdigits : a.nearestCents.natAbs < 10 ^ 28 := by
    rw [nearestCents, cents_lt_iff (moderate_of_cents h hlt).fits]
    exact hlt
  have houtcome := toCents_outcome ha
  rw [if_neg hdigits.not_ge] at houtcome
  obtain ⟨d, hd, hcents⟩ := houtcome
  exact ⟨d, hd, hcents.toRat_eq.trans (rounded_eq_iff.2 h)⟩

section
variable {t : Index.Table} {name : String} (hname : name ≠ "") {v : Value} {a : Decimal}
  (ha : t.valueFor v.date.year = .ok a) (hfinite : a.isFinite) (hne : a.toRat ≠ 0)
  (hv : v.amount.isFinite) {target : Date} (hyear : target.year = v.date.year)
include ha hfinite hne hv hyear

/-- Within a year a value is only rounded to cents. It fails where there are too many of them. -/
theorem apply_same_year (hdigits : Moderate v.amount.toRat) :
    (∃ d, v.amount.toCents = .ok d ∧ (Method.index t name).apply v target =
        .ok ⟨d, v.currency, target, some ⟨name, v.date, hname⟩⟩) ∨
      v.amount.toCents = .error .invalidOperation ∧
        (Method.index t name).apply v target = .error (.signal .invalidOperation) := by
  obtain ⟨r, hr, hrfinite, hone⟩ := Index.Table.rateAt_self ha hfinite hne
  have hrate : t.rateAt (.int v.date.year) (.int target.year) = .ok r := by rw [hyear, hr]
  have houtcome := toCents_outcome hv
  rw [apply_of_rate hrate, atRate_one hv hrfinite hone hdigits.fits hdigits.abs_lt]
  split at houtcome
  · rw [houtcome]
    exact .inr ⟨rfl, rfl⟩
  · obtain ⟨d, hd, hcents⟩ := houtcome
    rw [hd]
    exact .inl ⟨d, rfl, carryOver_ofDate hname v hcents.isFinite target⟩

/-- Whole cents below `10 ^ 26` stay as they are. -/
theorem apply_same_year_cents (hcents : ∃ n : ℤ, v.amount.toRat * 100 = n)
    (hlt : |v.amount.toRat| < 10 ^ 26) :
    ∃ d, (Method.index t name).apply v target =
        .ok ⟨d, v.currency, target, some ⟨name, v.date, hname⟩⟩ ∧ d.toRat = v.amount.toRat := by
  obtain ⟨d, hd, hvalue⟩ := toCents_of_cents hv hcents hlt
  obtain ⟨d', hd', hresult⟩ | ⟨herror, -⟩ :=
    apply_same_year hname ha hfinite hne hv hyear (moderate_of_cents hcents hlt)
  · cases hd.symm.trans hd'
    exact ⟨d, hresult, hvalue⟩
  · cases hd.symm.trans herror

end

end Method
end DatedMoney
