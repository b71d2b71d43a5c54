import DatedMoney.Proofs.Conversion.Report
import DatedMoney.Proofs.Decimal.Quotient

/-!
# The rate of a report

The rate of a report by a reference method leads from the amount to the very result, unless the
result is very large (`details_reproduces`). No amount is too large for that: what is carried over
has room in cents, and no reference method makes an amount much smaller.
-/

namespace DatedMoney
open Decimal

/-! ## The size of what can be carried over -/

theorem Method.abs_lt_of_abs_computed_lt {a r : ℚ} (hr : 10 ^ (-4 : Int) ≤ r)
    (h : |computed a r| < 10 ^ 26) : |a| < 10 ^ (31 : Int) := by
  by_contra hlarge
  have hrate := le_rate hr
  have hproduct : (10 : ℚ) ^ (26 : Int) ≤ |a * Context.money.nearest r| :=
    calc (10 : ℚ) ^ (26 : Int) = 10 ^ (31 : Int) * 10 ^ (-5 : Int) := by rw [← ten_zpow_add]; rfl
      _ ≤ |a| * Context.money.nearest r :=
        mul_le_mul (not_lt.1 hlarge) hrate (ten_zpow_pos _).le (abs_nonneg a)
      _ = |a * Context.money.nearest r| := by
        rw [abs_mul, abs_of_nonneg ((ten_zpow_pos _).le.trans hrate)]
  have hround := Context.le_nearest Context.money_proper
    (Context.fits_zpow Context.money_proper (by decide)) hproduct
  rw [← Context.abs_nearest] at hround
  exact absurd h hround.not_gt

theorem Registry.abs_amount_lt_of_transform {v w : Value} {name : String} {target : Date}
    (hv : v.amount.isFinite) (h : reference.transform v name target = .ok w) :
    |v.amount.toRat| < 10 ^ (31 : Int) := by
  obtain ⟨t, ht, rfl⟩ := mem_names_reference.1 (mem_names_of_transform h)
  obtain ⟨a, b, -, -, ⟨hlow, -⟩, houtcome⟩ := Method.apply_reference_outcome ht hv target
  rw [← transform_reference ht, h] at houtcome
  exact Method.abs_lt_of_abs_computed_lt hlow
    ((cents_lt_iff (Context.fits_nearest Context.money_proper _)).1 houtcome.of_ok.1)

/-! ## From the amount to the result -/

namespace Conversion

/-- There is a rate unless the amount is zero, and it leads to the result unless that is very
large. -/
structure Reproduces (amount result : Decimal) (rate? : Option Decimal) : Prop where
  none_iff : rate? = none ↔ amount.toRat = 0
  atRate : ∀ rate ∈ rate?, |result.toRat| < 10 ^ 24 → amount.atRate rate = .ok result

theorem Reproduces.congr {a b r : Decimal} {rate? : Option Decimal} (h : Reproduces a r rate?)
    (ha : a.isFinite) (hb : b.isFinite) (hvalue : a.toRat = b.toRat)
    (hsign : a.negative = b.negative) : Reproduces b r rate? where
  none_iff := hvalue ▸ h.none_iff
  atRate rate hrate hlt := atRate_eq_of_negative ha hb hvalue hsign rate ▸ h.atRate rate hrate hlt

theorem impliedRate_cases {a r : Decimal} {rate? : Option Decimal} (ha : a.isFinite)
    (h : impliedRate a r = .ok rate?) : a.toRat = 0 ∧ rate? = none ∨
      a.toRat ≠ 0 ∧ ∃ q, Context.money.div r a = .ok q ∧ rate? = some q := by
  rw [impliedRate_eq ha] at h
  split at h
  · rename_i h0
    cases h
    exact .inl ⟨h0, rfl⟩
  · rename_i h0
    obtain ⟨q, hq, h⟩ := Except.bind_eq_ok_iff.1 h
    cases h
    exact .inr ⟨h0, q, hq, rfl⟩

theorem impliedRate_reproduces {a r : Decimal} {n : ℤ} {rate? : Option Decimal} (ha : a.isFinite)
    (hsize : |a.toRat| ≤ 10 ^ (1000 : Int)) (hr : r.IsCents n) (h : impliedRate a r = .ok rate?) :
    Reproduces a r rate? := by
  obtain ⟨h0, rfl⟩ | ⟨h0, q, hq, rfl⟩ := impliedRate_cases ha h
  · exact ⟨iff_of_true rfl h0, by simp⟩
  · refine ⟨iff_of_false (by simp) h0, ?_⟩
    rintro _ ⟨⟩ hlt
    exact atRate_div ha h0 hsize hr hlt hq

/-- A rate is printed in a form that is read as it stands. -/
theorem ofText?_impliedRate {a r q : Decimal} (ha : a.isFinite) (hr : r.isFinite)
    (h : impliedRate a r = .ok (some q)) : ofText? q.toText = some q := by
  obtain ⟨-, h⟩ | ⟨-, q', hq, h⟩ := impliedRate_cases ha h
  · cases h
  · cases h
    exact (Context.div_within Context.money_proper hr ha hq).ofText?_toText

theorem details_reproduces {v : Value} {name : String} {target : Date} {report : Report}
    (hv : v.amount.isFinite) (h : details .reference v name target = .ok report) :
    report.source = v ∧ Registry.reference.transform v name target = .ok report.result ∧
      Reproduces v.amount report.result.amount report.rate := by
  obtain ⟨w, rate?, hw, hrate, rfl⟩ := details_eq_ok h
  obtain ⟨n, hn, -⟩ := Registry.amount_of_transform (Registry.mem_names_of_transform hw) hv hw
  have hsize : |v.amount.toRat| ≤ 10 ^ (1000 : Int) :=
    (Registry.abs_amount_lt_of_transform hv hw).le.trans
      (zpow_le_zpow_right₀ (by norm_num) (by decide))
  exact ⟨rfl, hw, impliedRate_reproduces hv hsize hn hrate⟩

end Conversion
end DatedMoney
