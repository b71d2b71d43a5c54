import DatedMoney.Proofs.Decimal.Arithmetic

/-!
# Rounding to cents

What `toCents` computes (`toCents_outcome`), and when it changes nothing (`rounded_eq_iff`).
-/

namespace DatedMoney.Decimal

/-- The nearest whole number of cents. -/
def nearestCents (a : Decimal) : ℤ := Tie.away.nearest (a.toRat * 100)

/-- The number rounded to cents, half away from zero. -/
def rounded (a : Decimal) : ℚ := a.nearestCents / 100

theorem toCents_finite (s : Bool) (c : Nat) (e : Int) :
    (Decimal.finite s c e).toCents =
      if 10 ^ 28 ≤ (Decimal.finite s c e).nearestCents.natAbs then .error .invalidOperation
      else .ok (.finite s (Decimal.finite s c e).nearestCents.natAbs (-2)) := by
  have h100 : (10 : ℚ) ^ 2 = 100 := by norm_num
  rw [toCents, Context.toPlaces_finite, h100]
  rfl

/-- A number that does not vanish keeps its sign. -/
theorem nearestCents_neg_iff {s : Bool} {c : Nat} {e : Int}
    (h : (Decimal.finite s c e).nearestCents ≠ 0) :
    (Decimal.finite s c e).nearestCents < 0 ↔ s := by
  have hc : (0 : ℚ) ≤ c * 10 ^ e := mul_nonneg (Nat.cast_nonneg c) (ten_zpow_pos e).le
  cases s
  · have hnonneg : 0 ≤ (Decimal.finite false c e).nearestCents :=
      Tie.nearest_nonneg (mul_nonneg (by simpa [toRat, signed] using hc) (by norm_num))
    simpa using hnonneg
  · have hnonpos : (Decimal.finite true c e).nearestCents ≤ 0 := by
      have hrat : (Decimal.finite true c e).toRat ≤ 0 := by simpa [toRat, signed] using hc
      have hle : (Decimal.finite true c e).nearestCents ≤ Tie.away.nearest 0 :=
        Tie.nearest_mono (mul_nonpos_of_nonpos_of_nonneg hrat (by norm_num))
      rwa [Tie.nearest_zero] at hle
    simpa using lt_of_le_of_ne hnonpos h

/-- An amount of whole cents is nothing or at least a cent. -/
theorem eq_zero_or_cent_le {a : ℚ} (h : ∃ n : ℤ, a * 100 = n) : a = 0 ∨ 10 ^ (-2 : Int) ≤ |a| := by
  obtain ⟨n, hn⟩ := h
  rw [← eq_div_iff (by norm_num)] at hn
  rw [hn]
  by_cases h0 : n = 0
  · exact .inl (by rw [h0]; norm_num)
  · have hone : (1 : ℚ) ≤ |(n : ℚ)| := by exact_mod_cast Int.one_le_abs h0
    refine .inr ?_
    rw [abs_div]
    norm_num
    linarith

/-- The decimals with two places that denote a number of cents. Zero may have either sign. -/
def IsCents (a : Decimal) (n : ℤ) : Prop :=
  ∃ s, a = .finite s n.natAbs (-2) ∧ signed s n.natAbs = n

namespace IsCents
variable {a : Decimal} {n : ℤ} (h : a.IsCents n)
include h

theorem isFinite : a.isFinite := by
  obtain ⟨s, rfl, -⟩ := h
  rfl

theorem toRat_eq : a.toRat = n / 100 := by
  obtain ⟨s, rfl, hsigned⟩ := h
  have h100 : (10 : ℚ) ^ (-2 : Int) = 1 / 100 := by norm_num
  rw [toRat, hsigned, h100, mul_one_div]

theorem toRat_mul : a.toRat * 100 = n := by
  rw [h.toRat_eq, div_mul_cancel₀ _ (by norm_num)]

theorem nearestCents_eq : a.nearestCents = n := by
  rw [nearestCents, h.toRat_mul, Tie.nearest_intCast]

end IsCents

theorem isCents_nearestCents (s : Bool) (c : Nat) (e : Int) :
    (Decimal.finite s (Decimal.finite s c e).nearestCents.natAbs (-2)).IsCents
      (Decimal.finite s c e).nearestCents := by
  refine ⟨s, rfl, ?_⟩
  by_cases hn : (Decimal.finite s c e).nearestCents = 0
  · simp [hn, signed]
  · have hneg := nearestCents_neg_iff hn
    cases s <;>
      simp only [signed, Bool.false_eq_true, iff_false, iff_true, if_false, if_true] at hneg ⊢ <;>
      omega

/-- The result of rounding to cents, unless it takes too many digits. -/
theorem toCents_outcome {a : Decimal} (h : a.isFinite) :
    if 10 ^ 28 ≤ a.nearestCents.natAbs then a.toCents = .error .invalidOperation
    else ∃ d, a.toCents = .ok d ∧ d.IsCents a.nearestCents := by
  obtain ⟨s, c, e, rfl⟩ := exists_finite h
  rw [toCents_finite]
  split
  · rfl
  · exact ⟨_, rfl, isCents_nearestCents s c e⟩

/-- What comes out as a finite number is whole cents, and no more of them than the context has
digits for. -/
theorem exists_isCents {a d : Decimal} (h : a.toCents = .ok d) (hd : d.isFinite) :
    ∃ n : ℤ, d.IsCents n ∧ n.natAbs < 10 ^ 28 := by
  cases a with
  | finite s c e =>
    rw [toCents_finite] at h
    split at h
    · cases h
    · rename_i hdigits
      cases h
      exact ⟨_, isCents_nearestCents s c e, not_le.1 hdigits⟩
  | infinite s => cases h
  | nan s signaling payload =>
    cases signaling with
    | true => cases h
    | false =>
      cases h
      cases hd

theorem rounded_nonneg_iff {a : Decimal} : 0 ≤ a.rounded ↔ 0 ≤ a.nearestCents := by
  rw [rounded, le_div_iff₀ (by norm_num), zero_mul]
  exact_mod_cast Iff.rfl

theorem rounded_eq_iff {a : Decimal} : a.rounded = a.toRat ↔ ∃ k : ℤ, a.toRat * 100 = k := by
  rw [rounded, div_eq_iff (by norm_num)]
  constructor
  · exact fun h => ⟨a.nearestCents, h.symm⟩
  · rintro ⟨k, hk⟩
    rw [nearestCents, hk, Tie.nearest_intCast]

end DatedMoney.Decimal
