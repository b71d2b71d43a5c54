import DatedMoney.Proofs.Method.Amount
import DatedMoney.Proofs.Method.Regular

/-!
# A conversion as a function of the amount

By a regular table a conversion is odd, keeps the order of amounts, and leaves nothing where there
is nothing (`apply_odd_monotone`). By any table, the sum of two amounts comes to the sum of what
they come to, up to a cent (`abs_apply_add_sub_le`).
-/

namespace DatedMoney.Method
open Decimal

theorem regular_rateAt {t : Index.Table} (ht : t.Regular) (y y' : Int) :
    ∃ r, t.rateAt (.int y) (.int y') = .ok r ∧ r.isFinite ∧ 0 ≤ r.toRat := by
  obtain ⟨a, b, ⟨ha, hafinite, hapos⟩, ⟨hb, hbfinite, hbpos⟩, -, hsize⟩ :=
    exists_regular_rate ht y y'
  obtain ⟨r, hr, hfinite, hvalue⟩ :=
    Context.div_spec Context.money_proper hbfinite hafinite hapos.ne' hsize
  refine ⟨r, ?_, hfinite, hvalue ▸ Context.nearest_nonneg (div_pos hbpos hapos).le⟩
  rw [t.rateAt_int ha hb, hr]
  rfl

section
variable {t : Index.Table} {name : String} {v : Value} {target : Date} {r : Decimal}

/-- The opposite amount comes to the opposite, and nothing else changes. -/
theorem apply_neg (hr : t.rateAt (.int v.date.year) (.int target.year) = .ok r)
    (hfinite : r.isFinite) (hv : v.amount.isFinite) :
    (Method.index t name).apply (v.withAmount (-v.amount)) target =
      ((Method.index t name).apply v target).map fun w => w.withAmount (-w.amount) := by
  have hamount : Except.Alike (fun a b => b = -a)
      (t.amountAt v.amount v.date.year (Checking.LooseDate.ofDate target).year)
      (t.amountAt (v.withAmount (-v.amount)).amount v.date.year
        (Checking.LooseDate.ofDate target).year) := by
    have hneg : (v.withAmount (-v.amount)).amount.atRate r = (v.amount.atRate r).map (-·) :=
      atRate_neg hv hfinite
    have hyear : (Checking.LooseDate.ofDate target).year = .int target.year := rfl
    rw [Index.Table.amountAt, Index.Table.amountAt, hyear, hr, Except.ok_bind, Except.ok_bind, hneg]
    exact (Except.Alike.map _ _).mapError _
  have hresult := apply_alike (v := v) (w := v.withAmount (-v.amount))
    (by rintro a _ rfl; exact (isFinite_neg a).symm) rfl rfl hamount name
  refine (hresult.mono ?_).eq_map
  rintro w w' ⟨-, hneg, hw⟩
  rw [hw, hneg]

end

/-- By a regular table a conversion does to amounts what multiplication by a positive rate does:
the opposite comes to the opposite, in all other respects the same; the larger of two amounts does
not come to less; zero comes to zero; and what is no larger than an amount that can be carried over
can be carried over as well. A method without a name carries nothing over. -/
theorem apply_odd_monotone {t : Index.Table} (ht : t.Regular) (name : String) (v : Value)
    (target : Date) :
    let result (a : Decimal) := (Method.index t name).apply (v.withAmount a) target
    (∀ a, a.isFinite → result (-a) = (result a).map fun w => w.withAmount (-w.amount)) ∧
      (∀ a b w w', a.isFinite → b.isFinite → a.toRat ≤ b.toRat → result a = .ok w →
        result b = .ok w' → w.amount.toRat ≤ w'.amount.toRat) ∧
      (name ≠ "" → ∀ a, a.isFinite → a.toRat = 0 →
        ∃ w, result a = .ok w ∧ w.amount.isFinite ∧ w.amount.toRat = 0) ∧
      ∀ a b, a.isFinite → b.isFinite → |a.toRat| ≤ |b.toRat| → (∃ w, result b = .ok w) →
        ∃ w, result a = .ok w := by
  intro result
  obtain ⟨r, hr, hfinite, hnonneg⟩ := regular_rateAt ht v.date.year target.year
  have hresult (a : Decimal) (w : Value) :
      result a = .ok w ↔ ∃ d, a.atRate r = .ok d ∧ d.isFinite ∧
        ∃ hname : name ≠ "", w = ⟨d, v.currency, target, some ⟨name, v.date, hname⟩⟩ :=
    apply_eq_ok_iff_of_rate (v := v.withAmount a) hr
  refine ⟨fun a ha => apply_neg (v := v.withAmount a) hr hfinite ha, ?mono, ?zero, ?bound⟩
  case mono =>
    intro a b w w' ha hb hle hw hw'
    obtain ⟨d, hd, -, -, rfl⟩ := (hresult a w).1 hw
    obtain ⟨d', hd', -, -, rfl⟩ := (hresult b w').1 hw'
    exact atRate_mono ha hb hfinite hnonneg hle hd hd'
  case zero =>
    intro hname a ha h0
    obtain ⟨d, hd, hdfinite, hdzero⟩ := atRate_zero ha hfinite h0
    exact ⟨_, (hresult a _).2 ⟨d, hd, hdfinite, hname, rfl⟩, hdfinite, hdzero⟩
  case bound =>
    rintro a b ha hb hle ⟨w, hw⟩
    obtain ⟨d', hd', -, hname, -⟩ := (hresult b w).1 hw
    obtain ⟨d, hd⟩ := atRate_ok_of_abs_le ha hb hfinite hle ⟨d', hd'⟩
    exact ⟨_, (hresult a _).2 ⟨d, hd, (isCents_of_atRate ha hfinite hd).isFinite, hname, rfl⟩⟩

/-- From 100 to 250, a cent becomes two and a half, which are rounded away from zero on either
side of it. -/
theorem apply_odd_monotone_decade :
    let cents (s : Bool) (n : Nat) : Decimal := .finite s n (-2)
    let carried (a : Decimal) : Value :=
      ⟨a, .usd, .yearly 2010, some ⟨"decade", .yearly 2000, by decide⟩⟩
    let result (a : Decimal) :=
      (Method.index decade).apply ⟨a, .usd, .yearly 2000, none⟩ (Date.yearly 2010)
    decade.Regular ∧ result (cents false 1) = .ok (carried (cents false 3)) ∧
      result (cents true 1) = .ok (carried (cents true 3)) ∧
      (cents true 3).toRat ≤ (cents false 3).toRat ∧
      (∃ w, result 0 = .ok w ∧ w.amount.toRat = 0) ∧ ∃ w, result (.finite true 9 (-3)) = .ok w := by
  intro cents carried result
  have hone : result (cents false 1) = .ok (carried (cents false 3)) := by rfl
  obtain ⟨hneg, hmono, hzero, hbound⟩ := apply_odd_monotone regular_decade "decade"
    ⟨0, .usd, .yearly 2000, none⟩ (.yearly 2010)
  have hopposite : result (cents true 1) =
      (result (cents false 1)).map fun w => w.withAmount (-w.amount) := hneg (cents false 1) rfl
  rw [hone] at hopposite
  have hle : (cents true 1).toRat ≤ (cents false 1).toRat := by
    norm_num [cents, toRat_finite, signed]
  have hsmaller : |(Decimal.finite true 9 (-3)).toRat| ≤ |(cents false 1).toRat| := by
    rw [abs_toRat_finite, abs_toRat_finite]
    norm_num
  have hordered : (cents true 3).toRat ≤ (cents false 3).toRat :=
    hmono (cents true 1) (cents false 1) (carried (cents true 3)) (carried (cents false 3))
      rfl rfl hle hopposite hone
  have hsmall : ∃ w, result (.finite true 9 (-3)) = .ok w :=
    hbound (.finite true 9 (-3)) (cents false 1) rfl rfl hsmaller ⟨carried (cents false 3), hone⟩
  obtain ⟨w, hw, -, hwzero⟩ := hzero (by decide) 0 rfl ((toRat_eq_zero_iff false 0 0).2 rfl)
  exact ⟨regular_decade, hone, hopposite, hordered, ⟨w, hw, hwzero⟩, hsmall⟩

/-- A conversion without a name has no provenance to give, even where there is nothing to carry
over. -/
theorem apply_zero_nameless :
    decade.Regular ∧ (0 : Decimal).InReach ∧ (0 : Decimal).toRat = 0 ∧
      (Method.index decade "").apply ⟨0, .usd, .yearly 2000, none⟩ (Date.yearly 2010) =
        .error (.invalid .provenance [⟨["method"], .emptyText⟩]) :=
  ⟨regular_decade, inReach_of_le (by decide) (by decide) (by decide),
    (toRat_eq_zero_iff false 0 0).2 rfl, by rfl⟩

/-- By any table, the sum of two amounts comes to the sum of what they come to, up to a cent. -/
theorem abs_apply_add_sub_le {t : Index.Table} {name : String} {target : Checking.LooseDate}
    {u v w : Value} (hv : v.date.year = u.date.year) (hw : w.date.year = u.date.year)
    (hufinite : u.amount.isFinite) (hvfinite : v.amount.isFinite) (hwfinite : w.amount.isFinite)
    (hsum : w.amount.toRat = u.amount.toRat + v.amount.toRat) {u' v' w' : Value}
    (hu' : (Method.index t name).apply u target = .ok u')
    (hv' : (Method.index t name).apply v target = .ok v')
    (hw' : (Method.index t name).apply w target = .ok w') :
    |w'.amount.toRat - (u'.amount.toRat + v'.amount.toRat)| ≤ 1 / 100 := by
  obtain ⟨r, hr, hu', hfinite⟩ := exists_rate_of_apply hu'
  obtain ⟨_, hrv, hv', -⟩ := exists_rate_of_apply hv'
  obtain ⟨_, hrw, hw', -⟩ := exists_rate_of_apply hw'
  rw [hv, hr] at hrv
  rw [hw, hr] at hrw
  cases hrv
  cases hrw
  exact atRate_add hufinite hvfinite hwfinite (isFinite_of_atRate hufinite hu' hfinite) hsum hu' hv'
    hw'

/-- From 100 to 250, a cent becomes three and two become five, so the bound is attained. -/
theorem abs_apply_add_sub_decade :
    let cents (n : Nat) : Decimal := .finite false n (-2)
    let value (n : Nat) : Value := ⟨cents n, .usd, .yearly 2000, none⟩
    let carried (n : Nat) : Value :=
      ⟨cents n, .usd, .yearly 2010, some ⟨"decade", .yearly 2000, by decide⟩⟩
    (value 2).amount.toRat = (value 1).amount.toRat + (value 1).amount.toRat ∧
      (Method.index decade).apply (value 1) (Date.yearly 2010) = .ok (carried 3) ∧
      (Method.index decade).apply (value 2) (Date.yearly 2010) = .ok (carried 5) ∧
      |(carried 5).amount.toRat - ((carried 3).amount.toRat + (carried 3).amount.toRat)| ≤
        1 / 100 := by
  intro cents value carried
  have hsum : (value 2).amount.toRat = (value 1).amount.toRat + (value 1).amount.toRat := by
    norm_num [value, cents, toRat_nonnegative]
  have hone : (Method.index decade).apply (value 1) (Date.yearly 2010) = .ok (carried 3) := by rfl
  have htwo : (Method.index decade).apply (value 2) (Date.yearly 2010) = .ok (carried 5) := by rfl
  have hbound := abs_apply_add_sub_le (u := value 1) (v := value 1) (w := value 2)
    rfl rfl rfl rfl rfl hsum hone hone htwo
  exact ⟨hsum, hone, htwo, hbound⟩

end DatedMoney.Method
