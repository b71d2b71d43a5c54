import DatedMoney.Proofs.Decimal.Printed
import DatedMoney.Proofs.Decimal.Rate

/-!
# Quotients as rates

The quotient of two amounts is the rate that leads from the one to the other. It is rounded, and so
is the product with it, but the two errors together stay far below half a cent unless the amount is
very large: then the rounding to cents removes them (`atRate_div`). The quotient lies within the
limits of its context (`div_within`), so that it is printed in a form that can be read.
-/

namespace DatedMoney.Decimal

/-! ## Within the limits -/

namespace Context
variable {ctx : Context}

/-- A number with the given sign whose digits stand within the limits of the context. -/
def Within (ctx : Context) (s : Bool) (d : Decimal) : Prop :=
  ∃ c e, d = .finite s c e ∧ ctx.etiny ≤ e ∧ e + digitCount c - 1 ≤ ctx.emax

theorem zero_within (hctx : ctx.Proper) (s : Bool) (e : Int) : ctx.Within s (ctx.zero s e) := by
  have hdigit : digitCount 0 = 1 := rfl
  have := hctx.etiny_le
  refine ⟨0, _, rfl, le_max_left .., ?_⟩
  rw [hdigit]
  omega

theorem settle_within {s : Bool} {c : Nat} {e : Int} {d : Decimal} (he : ctx.etiny ≤ e)
    (h : ctx.settle s c e = .ok d) : ctx.Within s d := by
  obtain ⟨c', e', hsettle, he'⟩ : ∃ c' e', ctx.settle s c e =
      (if ctx.emax < e' + digitCount c' - 1 then .error .overflow else .ok (.finite s c' e')) ∧
      e ≤ e' := by
    by_cases hc : c = 10 ^ ctx.precision
    · exact ⟨10 ^ (ctx.precision - 1), e + 1, by simp [settle, hc], by omega⟩
    · exact ⟨c, e, by simp [settle, hc], le_rfl⟩
  rw [hsettle] at h
  split at h
  · cases h
  · rename_i htop
    cases h
    exact ⟨c', e', rfl, he.trans he', Int.not_lt.1 htop⟩

theorem divFinite_within (hctx : ctx.Proper) {s : Bool} {c c' : Nat} {ideal : Int} {d : Decimal}
    (h : ctx.divFinite s c c' ideal = .ok d) : ctx.Within s d := by
  have hcut : ctx.etiny ≤ ctx.cut (ideal + quotientTop c c') := le_max_right ..
  rw [divFinite] at h
  dsimp only at h
  split at h
  · cases h
    exact zero_within hctx s _
  split at h
  · exact settle_within (by omega) h
  · exact settle_within hcut h

/-- A quotient has the sign of the one number or the other, unless they have the same. -/
theorem div_within (hctx : ctx.Proper) {a b d : Decimal} (ha : a.isFinite) (hb : b.isFinite)
    (h : ctx.div a b = .ok d) : ctx.Within (a.negative ^^ b.negative) d := by
  obtain ⟨s, c, e, rfl⟩ := exists_finite ha
  obtain ⟨s', c', e', rfl⟩ := exists_finite hb
  simp only [div, nanResult?] at h
  split at h
  · cases h
  split at h
  · cases h
    exact zero_within hctx _ _
  · exact divFinite_within hctx h

/-- What lies within the limits is printed in a form that is read as it stands. -/
theorem Within.ofText?_toText {s : Bool} {d : Decimal} (h : money.Within s d) :
    ofText? d.toText = some d := by
  obtain ⟨c, e, rfl, hlow, hhigh⟩ := h
  rw [Decimal.ofText?_toText, finite?, if_pos]
  simp only [money, etiny] at hlow hhigh
  rw [Bool.and_eq_true, decide_eq_true_eq, decide_eq_true_eq, minExponent, maxExponent]
  omega

end Context

/-! ## There and back -/

/-- The error of a quotient and of the product with it. -/
theorem abs_product_quotient_sub_le {a r : ℚ} (ha0 : a ≠ 0) (ha : |a| ≤ 10 ^ (1000 : Int))
    (hr : r = 0 ∨ 10 ^ (-2 : Int) ≤ |r|) :
    |Context.money.nearest (abs (a * Context.money.nearest (r / a))) - abs r| ≤
      |r| * (2 * 10 ^ (-27 : Int)) := by
  rcases hr with rfl | hr
  · simp
  have hsize : (10 : ℚ) ^ (-1002 : Int) ≤ |r / a| := by
    rw [abs_div, le_div_iff₀ (abs_pos.2 ha0)]
    calc (10 : ℚ) ^ (-1002 : Int) * |a| ≤ 10 ^ (-1002 : Int) * 10 ^ (1000 : Int) :=
          mul_le_mul_of_nonneg_left ha (ten_zpow_pos _).le
      _ = 10 ^ (-2 : Int) := by rw [← ten_zpow_add]; rfl
      _ ≤ |r| := hr
  have hquotient := Context.abs_money_nearest_sub_le (by decide) hsize
  generalize Context.money.nearest (r / a) = q at *
  have hproduct : |abs (a * q) - abs r| ≤ |r| * 10 ^ (-27 : Int) / 2 :=
    calc |abs (a * q) - abs r| ≤ |a * q - r| := abs_abs_sub_abs_le ..
      _ = |a| * |q - r / a| := by rw [← abs_mul, mul_sub, mul_div_cancel₀ _ ha0]
      _ ≤ |a| * (|r / a| * 10 ^ (-27 : Int) / 2) :=
        mul_le_mul_of_nonneg_left hquotient (abs_nonneg a)
      _ = |r| * 10 ^ (-27 : Int) / 2 := by
        rw [abs_div, ← mul_div_assoc, ← mul_assoc, mul_div_cancel₀ _ (abs_pos.2 ha0).ne']
  have hbounds := abs_le.1 hproduct
  have hcents : (10 : ℚ) ^ (-3 : Int) ≤ |abs (a * q)| := by
    rw [abs_abs]
    norm_num at hr hbounds ⊢
    linarith
  have hround := Context.abs_money_nearest_sub_le (by decide) hcents
  rw [abs_abs] at hround
  calc |Context.money.nearest (abs (a * q)) - abs r|
      ≤ |Context.money.nearest (abs (a * q)) - abs (a * q)| + |abs (a * q) - abs r| :=
        abs_sub_le ..
    _ ≤ |a * q| * 10 ^ (-27 : Int) / 2 + |r| * 10 ^ (-27 : Int) / 2 := add_le_add hround hproduct
    _ ≤ |r| * (2 * 10 ^ (-27 : Int)) := by
      have := abs_nonneg r
      norm_num at hbounds ⊢
      linarith

/-- An amount comes to the very cents by which it was divided for the rate. -/
theorem atRate_div {a r q : Decimal} {n : ℤ} (ha : a.isFinite) (ha0 : a.toRat ≠ 0)
    (hsize : |a.toRat| ≤ 10 ^ (1000 : Int)) (hr : r.IsCents n) (hlt : |r.toRat| < 10 ^ 24)
    (h : Context.money.div r a = .ok q) : a.atRate q = .ok r := by
  obtain ⟨hqfinite, hq⟩ :=
    (Context.div_outcome Context.money_proper hr.isFinite ha ha0).of_ok h
  obtain ⟨c, e, hwithin, -⟩ := Context.div_within Context.money_proper hr.isFinite ha h
  have hsign : (a.negative ^^ q.negative) = r.negative := by
    rw [hwithin, negative, Bool.xor_comm r.negative, ← Bool.xor_assoc, Bool.xor_self,
      Bool.false_xor]
  have herror :=
    abs_product_quotient_sub_le ha0 hsize (eq_zero_or_cent_le ⟨n, hr.toRat_mul⟩)
  rw [← hq] at herror
  rw [atRate_eq ha hqfinite, hsign]
  generalize Context.money.nearest |a.toRat * q.toRat| = p at *
  obtain ⟨s, rfl, hn⟩ := id hr
  have hvalue : |(Decimal.finite s n.natAbs (-2)).toRat| * 100 = n.natAbs := by
    rw [abs_toRat_finite, mul_assoc, (by norm_num : (10 : ℚ) ^ (-2 : Int) * 100 = 1), mul_one]
  generalize |(Decimal.finite s n.natAbs (-2)).toRat| = x at *
  have hbounds := abs_le.1 herror
  norm_num at hbounds hlt
  -- The error is far less than half a cent.
  have hnear : |((n.natAbs : ℤ) : ℚ) - p * 100| < 1 / 2 := by
    rw [Int.cast_natCast, ← hvalue, abs_lt]
    constructor <;> linarith
  rw [centsOf, if_pos (by linarith), Tie.nearest_eq_of_abs_lt hnear]
  rfl

end DatedMoney.Decimal
