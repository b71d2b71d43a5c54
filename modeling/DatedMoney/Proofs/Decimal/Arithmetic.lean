import DatedMoney.Proofs.Decimal.Rounding

/-!
# Arithmetic rounds the exact result once

Products and quotients of finite numbers are the numbers nearest to the exact ones (`mul_spec`,
`div_spec`). Rounding to places is rounding of the scaled number (`toPlaces_finite`).
-/

namespace DatedMoney.Decimal

/-- The place of the leading digit of a quotient. -/
theorem log_div {c c' : Nat} (hc : c ≠ 0) (hc' : c' ≠ 0) :
    Int.log 10 (c / c' : ℚ) + 1 = quotientTop c c' := by
  have hd : (0 : ℚ) < c' := by exact_mod_cast Nat.pos_of_ne_zero hc'
  have hlow : (10 : ℚ) ^ (digitCount c - 1 : Int) ≤ c := by
    have := digitCount_pos c
    rw [show (digitCount c - 1 : Int) = (digitCount c - 1 : Nat) by omega, zpow_natCast]
    exact_mod_cast pow_le_of_digitCount hc
  have hlow' : (10 : ℚ) ^ (digitCount c' - 1 : Int) ≤ c' := by
    have := digitCount_pos c'
    rw [show (digitCount c' - 1 : Int) = (digitCount c' - 1 : Nat) by omega, zpow_natCast]
    exact_mod_cast pow_le_of_digitCount hc'
  have htop : (c : ℚ) < 10 ^ (digitCount c : Int) := by
    rw [zpow_natCast]
    exact_mod_cast lt_pow_digitCount c
  have htop' : (c' : ℚ) < 10 ^ (digitCount c' : Int) := by
    rw [zpow_natCast]
    exact_mod_cast lt_pow_digitCount c'
  rw [quotientTop]
  generalize digitCount c = i at *
  generalize digitCount c' = j at *
  have hcompare : c * 10 ^ (j - i) < c' * 10 ^ (i - j) ↔ (c : ℚ) / c' < 10 ^ (i - j : Int) := by
    have h10 : (10 : ℚ) ^ (i - j : Int) * 10 ^ (j - i) = 10 ^ (i - j) := by
      rw [← zpow_natCast, ← zpow_natCast, ← ten_zpow_add]
      congr 1
      omega
    rw [div_lt_iff₀ hd, ← mul_lt_mul_iff_left₀ (by positivity : (0 : ℚ) < 10 ^ (j - i)),
      mul_right_comm, h10, mul_comm _ (c' : ℚ)]
    exact_mod_cast Iff.rfl
  split
  · rename_i h
    have hlog : Int.log 10 (c / c' : ℚ) = i - j - 1 := by
      refine log_eq_of_bounds ?_ (by rw [sub_add_cancel]; exact hcompare.1 h)
      rw [le_div_iff₀ hd]
      calc (10 : ℚ) ^ (i - j - 1 : Int) * c' ≤ 10 ^ (i - j - 1 : Int) * 10 ^ (j : Int) :=
          mul_le_mul_of_nonneg_left htop'.le (ten_zpow_pos _).le
        _ = 10 ^ (i - 1 : Int) := by rw [← ten_zpow_add]; congr 1; omega
        _ ≤ c := hlow
    omega
  · rename_i h
    have hlog : Int.log 10 (c / c' : ℚ) = i - j := by
      refine log_eq_of_bounds (not_lt.1 fun h' => h (hcompare.2 h')) ?_
      rw [div_lt_iff₀ hd]
      calc (c : ℚ) < 10 ^ (i : Int) := htop
        _ = 10 ^ (i - j + 1 : Int) * 10 ^ (j - 1 : Int) := by rw [← ten_zpow_add]; congr 1; omega
        _ ≤ 10 ^ (i - j + 1 : Int) * c' := mul_le_mul_of_nonneg_left hlow' (ten_zpow_pos _).le
    omega

theorem dropZeros_spec (k n : Nat) : (dropZeros k n).2 * 10 ^ (dropZeros k n).1 = n := by
  induction k generalizing n with
  | zero => simp [dropZeros]
  | succ k ih =>
    rw [dropZeros]
    split
    · rename_i h
      rw [Nat.pow_succ, ← Nat.mul_assoc, ih]
      omega
    · simp

namespace Context
variable {ctx : Context}

theorem divFinite_spec (hctx : ctx.Proper) (s : Bool) {c c' : Nat} (hc : c ≠ 0) (hc' : c' ≠ 0)
    (ideal : Int) :
    ctx.Rounds s (c / c' * 10 ^ ideal) (ctx.divFinite s c c' ideal) := by
  have hcc : (0 : ℚ) < c / c' :=
    div_pos (by exact_mod_cast Nat.pos_of_ne_zero hc) (by exact_mod_cast Nat.pos_of_ne_zero hc')
  have hx : (0 : ℚ) < c / c' * 10 ^ ideal := mul_pos hcc (ten_zpow_pos ideal)
  have htop : ideal + quotientTop c c' = Int.log 10 (c / c' * 10 ^ ideal : ℚ) + 1 := by
    rw [log_mul_zpow hcc, ← log_div hc hc']
    ring
  rw [divFinite, htop]
  have hquot (k : Int) :
      ((c * 10 ^ (ideal - k).toNat : Nat) : ℚ) / (c' * 10 ^ (k - ideal).toNat : Nat) =
      c / c' * 10 ^ ideal / 10 ^ k := by
    have h10 : (10 : ℚ) ^ (ideal - k).toNat / 10 ^ (k - ideal).toNat = 10 ^ ideal / 10 ^ k := by
      rw [← zpow_natCast, ← zpow_natCast, ← zpow_sub₀ (by norm_num), ← zpow_sub₀ (by norm_num)]
      congr 1
      omega
    push_cast
    rw [mul_div_mul_comm, h10]
    ring
  generalize (c / c' * 10 ^ ideal : ℚ) = x at *
  dsimp only
  split
  · rename_i hcut
    exact rounds_zero _ _ (nearest_eq_zero hx hcut) _
  rename_i hcut
  have hquot := hquot (ctx.cut (Int.log 10 x + 1))
  have hn' : 0 < c' * 10 ^ (ctx.cut (Int.log 10 x + 1) - ideal).toNat :=
    Nat.mul_pos (Nat.pos_of_ne_zero hc') (by positivity)
  generalize c * 10 ^ (ideal - ctx.cut (Int.log 10 x + 1)).toNat = n at *
  generalize c' * 10 ^ (ctx.cut (Int.log 10 x + 1) - ideal).toNat = n' at *
  split
  · rename_i hmod
    obtain ⟨m, rfl⟩ := Nat.dvd_of_mod_eq_zero hmod
    rw [Nat.mul_div_cancel_left m hn']
    have hm : (m : ℚ) = x / 10 ^ ctx.cut (Int.log 10 x + 1) := by
      rw [← hquot, Nat.cast_mul, mul_div_cancel_left₀ _ (by exact_mod_cast hn'.ne')]
    have hzeros := dropZeros_spec (ideal - ctx.cut (Int.log 10 x + 1)).toNat m
    generalize dropZeros (ideal - ctx.cut (Int.log 10 x + 1)).toNat m = p at *
    obtain ⟨k, q⟩ := p
    dsimp only at hzeros ⊢
    have hself : ctx.nearest x = x := nearest_eq_self (m := m) (by rw [abs_of_pos hx, ← hm]; rfl)
    refine settle_spec hctx s ?_ ?_ ?_
    · have hle := ctx.div_cut_le x
      rw [← hm, Nat.cast_le, ← hzeros] at hle
      exact (Nat.le_mul_of_pos_right q (by positivity)).trans hle
    · rintro rfl
      rw [← hzeros, Nat.zero_mul, Nat.cast_zero] at hm
      exact absurd hm.symm (div_pos hx (ten_zpow_pos _)).ne'
    · rw [hself, add_comm, ten_zpow_add, zpow_natCast, ← mul_assoc]
      rw [← eq_div_iff (ten_zpow_pos _).ne', ← hm, ← hzeros]
      push_cast
      rfl
  · exact settle_roundDiv_spec hctx s hx hn' (Int.not_lt.1 hcut) hquot

/-! ## Operations on finite numbers -/

/-- The product of finite numbers is the number nearest to the exact product, unless that is too
large. -/
theorem mul_outcome (hctx : ctx.Proper) {a b : Decimal} (ha : a.isFinite) (hb : b.isFinite) :
    ctx.Outcome (a.toRat * b.toRat) (ctx.mul a b) := by
  obtain ⟨s, c, e, rfl⟩ := exists_finite ha
  obtain ⟨s', c', e', rfl⟩ := exists_finite hb
  refine (round_spec hctx (s ^^ s') (c * c') (e + e')).outcome ?_ ?_
  · exact mul_nonneg (Nat.cast_nonneg _) (ten_zpow_pos _).le
  · rw [toRat, toRat, signed_eq, signed_eq, ten_zpow_add, Nat.cast_mul]
    cases s <;> cases s' <;> simp <;> ring

theorem mul_spec (hctx : ctx.Proper) {a b : Decimal} (ha : a.isFinite) (hb : b.isFinite)
    (h : |a.toRat * b.toRat| ≤ 10 ^ ctx.emax) :
    ∃ d, ctx.mul a b = .ok d ∧ d.isFinite ∧ d.toRat = ctx.nearest (a.toRat * b.toRat) :=
  (mul_outcome hctx ha hb).exists_ok hctx h

/-- The quotient of finite numbers is the number nearest to the exact quotient, unless that is too
large. -/
theorem div_outcome (hctx : ctx.Proper) {a b : Decimal} (ha : a.isFinite) (hb : b.isFinite)
    (hb0 : b.toRat ≠ 0) : ctx.Outcome (a.toRat / b.toRat) (ctx.div a b) := by
  obtain ⟨s, c, e, rfl⟩ := exists_finite ha
  obtain ⟨s', c', e', rfl⟩ := exists_finite hb
  have hc' : c' ≠ 0 := fun h0 => hb0 ((toRat_eq_zero_iff ..).2 h0)
  have hdiv : ctx.div (.finite s c e) (.finite s' c' e') =
      if c = 0 then .ok (ctx.zero (s ^^ s') (e - e'))
      else ctx.divFinite (s ^^ s') c c' (e - e') := by
    simp [div, nanResult?, hc']
  have hxy : (c / c' * 10 ^ (e - e') : ℚ) = c * 10 ^ e / (c' * 10 ^ e') := by
    rw [zpow_sub₀ (by norm_num)]
    ring
  have hrounds : ctx.Rounds (s ^^ s') (c / c' * 10 ^ (e - e'))
      (ctx.div (.finite s c e) (.finite s' c' e')) := by
    rw [hdiv]
    split
    · rename_i hc
      exact rounds_zero _ _ (by simp [hc]) _
    · rename_i hc
      exact divFinite_spec hctx (s ^^ s') hc hc' (e - e')
  refine hrounds.outcome ?_ ?_
  · exact mul_nonneg (by positivity) (ten_zpow_pos _).le
  · rw [hxy, toRat, toRat, signed_eq, signed_eq]
    cases s <;> cases s' <;> simp <;> ring

theorem div_spec (hctx : ctx.Proper) {a b : Decimal} (ha : a.isFinite) (hb : b.isFinite)
    (hb0 : b.toRat ≠ 0) (h : |a.toRat / b.toRat| ≤ 10 ^ ctx.emax) :
    ∃ d, ctx.div a b = .ok d ∧ d.isFinite ∧ d.toRat = ctx.nearest (a.toRat / b.toRat) :=
  (div_outcome hctx ha hb hb0).exists_ok hctx h

/-- Rounding to places is rounding of the scaled number to a whole one. -/
theorem toPlaces_finite (tie : Tie) (places : Nat) (s : Bool) (c : Nat) (e : Int) :
    ctx.toPlaces tie places (.finite s c e) =
      if 10 ^ ctx.precision ≤ (tie.nearest ((Decimal.finite s c e).toRat * 10 ^ places)).natAbs then
        .error .invalidOperation
      else
        .ok (.finite s (tie.nearest ((Decimal.finite s c e).toRat * 10 ^ places)).natAbs
          (-places)) := by
  have hn : ((tie.nearest ((Decimal.finite s c e).toRat * 10 ^ places)).natAbs : ℤ) =
      tie.nearest (c * 10 ^ (e + places)) := by
    rw [Int.natCast_natAbs, Tie.abs_nearest, abs_mul, abs_toRat_finite, abs_of_pos (by positivity),
      mul_assoc, ten_zpow_add, zpow_natCast]
  generalize (tie.nearest ((Decimal.finite s c e).toRat * 10 ^ places)).natAbs = n at *
  rw [toPlaces]
  split
  · rename_i hc
    obtain rfl : n = 0 := by simpa [hc] using hn
    rw [if_neg (by simp)]
  rename_i hc
  split
  · rename_i he
    obtain rfl : n = c * 10 ^ (e + places).toNat := by
      have h : (c * 10 ^ (e + places) : ℚ) = (c * 10 ^ (e + places).toNat : Nat) := by
        rw [← shift_mul_zpow c (show 0 ≤ e + places by omega), zpow_zero, mul_one, Int.sub_zero]
      rw [h, Tie.nearest_natCast] at hn
      exact_mod_cast hn
    dsimp only
    rw [← digitCount_mul_pow hc]
    have hdigits : ctx.precision < digitCount (c * 10 ^ (e + places).toNat) ↔ _ :=
      lt_digitCount_iff (Nat.mul_ne_zero hc (by positivity))
    simp only [hdigits]
  · rename_i he
    dsimp only
    have hk : (c * 10 ^ (e + places) : ℚ) = c / (10 ^ (-places - e).toNat : Nat) := by
      push_cast
      rw [← zpow_natCast, Int.toNat_of_nonneg (by omega), div_eq_mul_inv, ← zpow_neg]
      congr 2
      ring
    obtain rfl : n = if digitCount c < (-places - e).toNat then 0
        else tie.roundDiv c (10 ^ (-places - e).toNat) := by
      rw [hk] at hn
      split
      · -- The number is below a tenth of the last place.
        rename_i hlt
        have h10 : (0 : ℚ) < (10 ^ (-places - e).toNat : Nat) := by positivity
        have hc10 : c * 10 ≤ 10 ^ (-places - e).toNat :=
          calc c * 10 ≤ 10 ^ digitCount c * 10 := Nat.mul_le_mul_right 10 (lt_pow_digitCount c).le
            _ = 10 ^ (digitCount c + 1) := (Nat.pow_succ ..).symm
            _ ≤ 10 ^ (-places - e).toNat := Nat.pow_le_pow_right (by decide) hlt
        have hc10 : (c * 10 : ℚ) ≤ (10 ^ (-places - e).toNat : Nat) := by exact_mod_cast hc10
        rw [Tie.nearest_eq_of_abs_lt (n := 0)] at hn
        · exact_mod_cast hn
        · rw [Int.cast_zero, zero_sub, abs_neg, abs_of_nonneg (by positivity), div_lt_iff₀ h10]
          linarith
      · rw [← Tie.roundDiv_eq _ (by positivity)] at hn
        exact_mod_cast hn
    rfl

end Context
end DatedMoney.Decimal
