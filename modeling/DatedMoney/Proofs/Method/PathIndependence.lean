import DatedMoney.Proofs.Method.Regular

/-!
# Conversions by way of another year

A value that is carried over by an index to one year and from there to another comes close to the
value that is carried over at once (`abs_apply_apply_sub_apply_le`). The first rounding to cents
counts as often as the index grows on the rest of the way; all other roundings hardly count.
-/

namespace DatedMoney.Method
open Decimal

/-! ## One conversion -/

theorem abs_cents_sub_le (x : ℚ) : |(Tie.away.nearest (x * 100) : ℚ) / 100 - x| ≤ 1 / 200 := by
  have h := abs_le.1 (Tie.away.abs_nearest_sub_le (x * 100))
  rw [abs_le]
  constructor <;> linarith

theorem abs_rounded_sub_le (a : Decimal) : |a.rounded - a.toRat| ≤ 1 / 200 :=
  abs_cents_sub_le a.toRat

/-- A conversion that succeeds multiplies the amount by the rate between the years, up to a small
part of the product and half a cent. -/
theorem apply_regular {t : Index.Table} (ht : t.Regular) {name : String} {v w : Value}
    (hv : v.amount.isFinite)
    (hv' : v.amount.toRat = 0 ∨ 10 ^ (-1000 : Int) ≤ |v.amount.toRat|) {target : Date}
    (h : (Method.index t name).apply v target = .ok w) :
    ∃ a b, (t.valueFor v.date.year = .ok a ∧ 0 < a.toRat) ∧
      (t.valueFor target.year = .ok b ∧ 0 < b.toRat) ∧ w.date = target ∧
      (∃ n, w.amount.IsCents n) ∧
      |w.amount.toRat - v.amount.toRat * (b.toRat / a.toRat)| ≤
        |v.amount.toRat * (b.toRat / a.toRat)| * (2 * 10 ^ (-27 : Int)) + 1 / 200 := by
  have hname : name ≠ "" := by
    obtain ⟨_, _, _, _, _, _, _, _, _, _, hcarry⟩ := rescale_eq_ok_iff.1 h
    exact (carryOver_eq_ok_iff.1 hcarry).2.2.2.1
  obtain ⟨a, b, ha, hb, ⟨hlow, -⟩, houtcome⟩ := apply_regular_outcome ht hname hv target
  rw [h] at houtcome
  obtain ⟨-, cents, rfl, hcents⟩ := houtcome.of_ok
  refine ⟨a, b, ha, hb, rfl, ⟨_, hcents⟩, ?_⟩
  have herror := computed_error hlow hv'
  have hround := abs_cents_sub_le (computed v.amount.toRat (b.toRat / a.toRat))
  dsimp only
  rw [hcents.toRat_eq, add_comm]
  exact (abs_sub_le _ _ _).trans (add_le_add hround herror)

/-! ## Two conversions -/

/-- The error of a detour: that of the first part grows on the second part. -/
theorem abs_detour_sub_le {v r s w x ε : ℚ} (hs : 0 ≤ s) (hε : 0 ≤ ε)
    (hw : |w - v * r| ≤ |v * r| * ε + 1 / 200) (hx : |x - w * s| ≤ |w * s| * ε + 1 / 200) :
    |x - v * (r * s)| ≤ |v * (r * s)| * (2 * ε + ε ^ 2) + s * (1 + ε) / 200 + 1 / 200 := by
  have hgrown : |w * s - v * (r * s)| ≤ |v * (r * s)| * ε + s / 200 :=
    calc |w * s - v * (r * s)| = |w - v * r| * s := by
          rw [← mul_assoc, ← sub_mul, abs_mul, abs_of_nonneg hs]
      _ ≤ (|v * r| * ε + 1 / 200) * s := mul_le_mul_of_nonneg_right hw hs
      _ = |v * (r * s)| * ε + s / 200 := by
          rw [← mul_assoc, abs_mul (v * r), abs_of_nonneg hs]
          ring
  have hsize : |w * s| ≤ |v * (r * s)| * (1 + ε) + s / 200 := by
    have := abs_sub_abs_le_abs_sub (w * s) (v * (r * s))
    linarith
  calc |x - v * (r * s)| ≤ |x - w * s| + |w * s - v * (r * s)| := abs_sub_le ..
    _ ≤ |w * s| * ε + 1 / 200 + (|v * (r * s)| * ε + s / 200) := add_le_add hx hgrown
    _ ≤ (|v * (r * s)| * (1 + ε) + s / 200) * ε + 1 / 200 + (|v * (r * s)| * ε + s / 200) := by
      gcongr
    _ = |v * (r * s)| * (2 * ε + ε ^ 2) + s * (1 + ε) / 200 + 1 / 200 := by ring

/-- A detour and any other way with no more than one rounding to cents come out close together. -/
theorem abs_detour_sub_direct_le {v r s w x x' : ℚ} (hs : 0 ≤ s)
    (hw : |w - v * r| ≤ |v * r| * (2 * 10 ^ (-27 : Int)) + 1 / 200)
    (hx : |x - w * s| ≤ |w * s| * (2 * 10 ^ (-27 : Int)) + 1 / 200)
    (hx' : |x' - v * (r * s)| ≤ |v * (r * s)| * (2 * 10 ^ (-27 : Int)) + 1 / 200) :
    |x - x'| ≤ 1 / 100 + 501 / 100000 * s + |v * (r * s)| / 10 ^ 26 := by
  have hdetour := abs_detour_sub_le hs (by positivity) hw hx
  have htri : |x - x'| ≤ |x - v * (r * s)| + |x' - v * (r * s)| := by
    rw [abs_sub_comm x']
    exact abs_sub_le ..
  have hproduct := abs_nonneg (v * (r * s))
  generalize |v * (r * s)| = p at *
  norm_num at hdetour hx' ⊢
  linarith

/-- By way of another year a value comes within a cent, half a cent for each unit by which the
index grows on the second part of the way, and a very small part of the amount of what it comes to
at once. There and back again it comes as close to the amount rounded to cents. -/
theorem abs_apply_apply_sub_apply_le {t : Index.Table} (ht : t.Regular) {name : String}
    {v w x : Value} (hv : v.amount.InReach) {mid target : Date}
    (hw : (Method.index t name).apply v mid = .ok w)
    (hx : (Method.index t name).apply w target = .ok x) :
    ∃ a b c, (t.valueFor v.date.year = .ok a ∧ 0 < a.toRat) ∧
      (t.valueFor mid.year = .ok b ∧ 0 < b.toRat) ∧
      (t.valueFor target.year = .ok c ∧ 0 < c.toRat) ∧
      let bound := 1 / 100 + 501 / 100000 * (c.toRat / b.toRat) +
        |v.amount.toRat * c.toRat / a.toRat| / 10 ^ 26
      (∀ x', (Method.index t name).apply v target = .ok x' →
        |x.amount.toRat - x'.amount.toRat| ≤ bound) ∧
      (target.year = v.date.year → |x.amount.toRat - v.amount.rounded| ≤ bound) := by
  obtain ⟨a, b, ⟨ha, hapos⟩, ⟨hb, hbpos⟩, rfl, ⟨n, hcents⟩, hwerror⟩ :=
    apply_regular ht hv.isFinite hv.le_abs hw
  have hwmin : w.amount.toRat = 0 ∨ 10 ^ (-1000 : Int) ≤ |w.amount.toRat| :=
    (eq_zero_or_cent_le ⟨n, hcents.toRat_mul⟩).imp_right
      (zpow_le_zpow_right₀ (by norm_num) (by decide)).trans
  obtain ⟨b', c, ⟨hb', -⟩, ⟨hc, hcpos⟩, -, -, hxerror⟩ :=
    apply_regular ht hcents.isFinite hwmin hx
  obtain rfl : b = b' := Except.ok.inj (hb.symm.trans hb')
  have hs : 0 ≤ c.toRat / b.toRat := (div_pos hcpos hbpos).le
  have hrate : b.toRat / a.toRat * (c.toRat / b.toRat) = c.toRat / a.toRat := by
    field_simp
  have hclose {x' : ℚ} (hx' : |x' - v.amount.toRat * (c.toRat / a.toRat)| ≤
      |v.amount.toRat * (c.toRat / a.toRat)| * (2 * 10 ^ (-27 : Int)) + 1 / 200) :
      |x.amount.toRat - x'| ≤ 1 / 100 + 501 / 100000 * (c.toRat / b.toRat) +
        |v.amount.toRat * c.toRat / a.toRat| / 10 ^ 26 := by
    rw [← hrate] at hx'
    have := abs_detour_sub_direct_le hs hwerror hxerror hx'
    rwa [hrate, ← mul_div_assoc v.amount.toRat] at this
  refine ⟨a, b, c, ⟨ha, hapos⟩, ⟨hb, hbpos⟩, ⟨hc, hcpos⟩, ?_, ?_⟩
  · intro x' hx'
    obtain ⟨a', c', ⟨ha', -⟩, ⟨hc', -⟩, -, -, herror⟩ :=
      apply_regular ht hv.isFinite hv.le_abs hx'
    obtain rfl : a = a' := Except.ok.inj (ha.symm.trans ha')
    obtain rfl : c = c' := Except.ok.inj (hc.symm.trans hc')
    exact hclose herror
  · intro hyear
    rw [hyear] at hc
    obtain rfl : a = c := Except.ok.inj (ha.symm.trans hc)
    refine hclose ?_
    rw [div_self hapos.ne', mul_one]
    have hnonneg := abs_nonneg v.amount.toRat
    exact (abs_rounded_sub_le v.amount).trans (le_add_of_nonneg_left (by positivity))

/-- From 2003 to 2000 and on to 2007 the result is a cent off, and so it is from 2003 to 2000 and
back. -/
theorem abs_apply_apply_sub_apply_decade :
    let value (c : Nat) (date : Date) (p : Option Provenance) : Value :=
      ⟨.finite false c (-2), .usd, date, p⟩
    let carried (c : Nat) (date source : Date) : Value :=
      value c date (some ⟨"decade", source, by decide⟩)
    let v := value 3333 (.yearly 2003) none
    let w := carried 2299 (.yearly 2000) (.yearly 2003)
    let x := carried 4713 (.yearly 2007) (.yearly 2000)
    let x' := carried 4712 (.yearly 2007) (.yearly 2003)
    let y := carried 3334 (.yearly 2003) (.yearly 2000)
    decade.Regular ∧ v.amount.InReach ∧
      (Method.index decade).apply v (Date.yearly 2000) = .ok w ∧
      (Method.index decade).apply w (Date.yearly 2007) = .ok x ∧
      (Method.index decade).apply v (Date.yearly 2007) = .ok x' ∧
      (Method.index decade).apply w (Date.yearly 2003) = .ok y ∧
      ∃ b c d, decade.valueFor 2000 = .ok b ∧ decade.valueFor 2007 = .ok c ∧
        decade.valueFor 2003 = .ok d ∧
        |x.amount.toRat - x'.amount.toRat| ≤ 1 / 100 + 501 / 100000 * (c.toRat / b.toRat) +
          |v.amount.toRat * c.toRat / d.toRat| / 10 ^ 26 ∧
        |y.amount.toRat - v.amount.rounded| ≤ 1 / 100 + 501 / 100000 * (d.toRat / b.toRat) +
          |v.amount.toRat * d.toRat / d.toRat| / 10 ^ 26 := by
  intro value carried v w x x' y
  have hv : v.amount.InReach := inReach_of_le (by decide) (by decide) (by decide)
  -- The steps are evaluated one by one; all at once they nest too deep.
  have hvalue : decade.valueFor 2003 = .ok (.finite false 1450 (-1)) := by rfl
  have hw : (Method.index decade).apply v (Date.yearly 2000) = .ok w :=
    rescale_eq (by decide) hvalue (by rfl) (by rfl) (by rfl) (by rfl) rfl
  have hx : (Method.index decade).apply w (Date.yearly 2007) = .ok x := by rfl
  have hx' : (Method.index decade).apply v (Date.yearly 2007) = .ok x' :=
    rescale_eq (by decide) hvalue (by rfl) (by rfl) (by rfl) (by rfl) rfl
  have hy : (Method.index decade).apply w (Date.yearly 2003) = .ok y := by rfl
  obtain ⟨a, b, c, ⟨ha, -⟩, ⟨hb, -⟩, ⟨hc, -⟩, hdirect, -⟩ :=
    abs_apply_apply_sub_apply_le regular_decade hv hw hx
  obtain ⟨a', b', d, ⟨ha', -⟩, ⟨hb', -⟩, ⟨hd, -⟩, -, hback⟩ :=
    abs_apply_apply_sub_apply_le regular_decade hv hw hy
  obtain rfl : a = a' := Except.ok.inj (ha.symm.trans ha')
  obtain rfl : b = b' := Except.ok.inj (hb.symm.trans hb')
  obtain rfl : a = d := Except.ok.inj (ha.symm.trans hd)
  exact ⟨regular_decade, hv, hw, hx, hx', hy, b, c, a, hb, hc, ha, hdirect x' hx', hback rfl⟩

end DatedMoney.Method
