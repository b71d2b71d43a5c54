import DatedMoney.Conversion
import DatedMoney.Proofs.Conversion.Carried

/-!
# Conversions with a report

A report has a rate unless the amount is zero (`impliedRate_eq`). By a reference method there is
a report on a legible value whenever it can be carried over and both can be written
(`details_reference`).
-/

namespace DatedMoney.Conversion
open Decimal Notation

theorem equal_zero {a : Decimal} (ha : a.isFinite) :
    Decimal.equal a 0 = .ok (decide (a.toRat = 0)) := by
  have hzero : toRat 0 = 0 := (toRat_eq_zero_iff false 0 0).2 rfl
  rw [Decimal.equal_finite ha rfl, hzero]

theorem impliedRate_eq {a : Decimal} (ha : a.isFinite) (b : Decimal) : impliedRate a b =
    if a.toRat = 0 then .ok none else Context.money.div b a >>= fun rate => .ok (some rate) := by
  rw [impliedRate, equal_zero ha, Except.ok_bind]
  by_cases h0 : a.toRat = 0
  · rw [decide_eq_true h0, if_pos h0]
    rfl
  · rw [decide_eq_false h0, if_neg h0]
    rfl

theorem impliedRate_eq_ok {a b : Decimal} (ha : a.isFinite) (hb : b.isFinite)
    (hsize : a.toRat ≠ 0 → |b.toRat / a.toRat| ≤ 10 ^ Context.money.emax) :
    ∃ rate, impliedRate a b = .ok rate ∧ (rate = none ↔ a.toRat = 0) ∧
      ∀ d ∈ rate, d.isFinite ∧ d.toRat = Context.money.nearest (b.toRat / a.toRat) := by
  rw [impliedRate_eq ha]
  by_cases h0 : a.toRat = 0
  · exact ⟨none, by simp [h0], by simp [h0], by simp⟩
  · obtain ⟨d, hd, hfinite, hvalue⟩ :=
      Context.div_spec Context.money_proper hb ha h0 (hsize h0)
    refine ⟨some d, by rw [if_neg h0, hd]; rfl, by simp [h0], ?_⟩
    rintro _ ⟨⟩
    exact ⟨hfinite, hvalue⟩

/-- What a report consists of. -/
theorem details_eq_ok {r : Registry} {v : Value} {name : String} {target : Checking.LooseDate}
    {report : Report} (h : details r v name target = .ok report) :
    ∃ w rate?, r.transform v name target = .ok w ∧ impliedRate v.amount w.amount = .ok rate? ∧
      report = ⟨v, w, name, rate?⟩ := by
  obtain ⟨w, hw, h⟩ := Except.bind_eq_ok_iff.1 h
  obtain ⟨rate?, hrate, h⟩ := Except.bind_eq_ok_iff.1 h
  obtain ⟨-, -, h⟩ := Except.bind_eq_ok_iff.1 h
  obtain ⟨-, -, h⟩ := Except.bind_eq_ok_iff.1 h
  refine ⟨w, rate?, hw, Except.mapError_eq_ok_iff.1 hrate, ?_⟩
  cases rate? with
  | none => exact (Except.ok.inj h).symm
  | some q =>
    obtain ⟨q', hq, h⟩ := Except.bind_eq_ok_iff.1 h
    have hq := Checking.Checked.field_eq_ok_iff.1 (Except.mapError_eq_ok_iff.1 hq)
    rw [(Checking.finite_eq_ok_iff.1 hq).2] at h
    exact (Except.ok.inj h).symm

/-- What is carried over is not so large that its rate to an amount of at least a cent is. -/
theorem abs_rate_le {v w : Value} {name : String} (hname : name ∈ Registry.reference.names)
    {target : Date} (hv : Legible v) (h : Registry.reference.transform v name target = .ok w)
    (h0 : v.amount.toRat ≠ 0) :
    |w.amount.toRat / v.amount.toRat| ≤ 10 ^ Context.money.emax := by
  obtain ⟨n, hn, hlt⟩ := Registry.amount_of_transform hname hv.finite h
  -- The rate is greatest for a cent that is carried over to an amount of 28 digits.
  have hcent : (10 : ℚ) ^ (-2 : Int) ≤ |v.amount.toRat| :=
    (eq_zero_or_cent_le hv.cents).resolve_left h0
  have hw : |w.amount.toRat| ≤ 10 ^ 26 := by
    have habs : |(n : ℚ)| < 10 ^ 28 := by
      rw [← Int.cast_abs, Int.abs_eq_natAbs, Int.cast_natCast]
      exact_mod_cast hlt
    rw [hn.toRat_eq, abs_div, abs_of_pos (by norm_num : (0 : ℚ) < 100), div_le_iff₀ (by norm_num)]
    norm_num at habs ⊢
    exact habs.le
  have hrate : |w.amount.toRat / v.amount.toRat| ≤ 10 ^ (28 : Int) := by
    rw [abs_div, div_le_iff₀ ((ten_zpow_pos _).trans_le hcent)]
    calc |w.amount.toRat| ≤ 10 ^ 26 := hw
      _ = 10 ^ (28 : Int) * 10 ^ (-2 : Int) := by norm_num
      _ ≤ 10 ^ (28 : Int) * |v.amount.toRat| :=
        mul_le_mul_of_nonneg_left hcent (ten_zpow_pos _).le
  exact hrate.trans (zpow_le_zpow_right₀ (by norm_num) (by decide))

/-- The report on a value that is carried over. -/
theorem details_reference {v w : Value} {name : String} (hname : name ∈ Registry.reference.names)
    {target : Date} (hv : Legible v) (h : Registry.reference.transform v name target = .ok w) :
    ∃ rate, details .reference v name target =
        (if Writable v.amount then
          if Text.isShort target.year then .ok ⟨v, w, name, rate⟩ else .error .tooManyDigits
        else .error (.signal .invalidOperation)) ∧
      (rate = none ↔ v.amount.toRat = 0) := by
  have hwfinite := Registry.isFinite_of_transform hname hv.finite h
  obtain ⟨rate, hrate, hnone, hsome⟩ :=
    impliedRate_eq_ok hv.finite hwfinite (abs_rate_le hname hv h)
  have hwritten := Registry.write_of_transform hname hv.finite hv.shortYears.1 h
  refine ⟨rate, ?_, hnone⟩
  simp only [details, h, hrate, Except.ok_bind, Method.signaled_ok,
    write_short hv.finite hv.shortYears, hwritten]
  split
  · split
    · cases rate with
      | none => rfl
      | some d =>
        have hfinite : Checking.finite d = .ok d := if_pos (hsome d rfl).1
        simp only [Except.ok_bind, hfinite]
        rfl
    · rfl
  · rfl

end DatedMoney.Conversion
