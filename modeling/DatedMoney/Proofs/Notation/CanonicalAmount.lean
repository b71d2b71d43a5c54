import DatedMoney.Proofs.Decimal.Rounding
import DatedMoney.Proofs.Notation.Fields
import DatedMoney.Proofs.Notation.RoundTrip

/-!
# The text of an amount

What is written for a number is the canonical amount of its nearest number of cents
(`shows_writtenAmount`), with a sign that changes with that of the number
(`writtenAmount_neg`). Read without its commas it denotes the number rounded to cents
(`toRat_of_ofText?_plain`), for which the same text is written again (`amountToChars_of_rounded`).
-/

namespace DatedMoney.Notation
open Decimal

/-- The text of an amount with the other sign. Zero has none. -/
def opposite : List Char → List Char
  | ['0'] => ['0']
  | '-' :: cs => cs
  | cs => '-' :: cs

/-- The canonical text of a number of whole cents: the size is an amount of the grammar, with a sign
in front if the number is negative, and with cents if it is not whole. -/
def Shows (cs : List Char) (r : ℚ) : Prop :=
  ∃ a : AmountText, cs = signChars (r < 0) ++ a.text ∧ a.Canonical ∧ a.value.toRat = |r| ∧
    (a.cents.isSome ↔ ¬∃ n : ℤ, r = n)

/-- What is written for a number, if it can be written at all. -/
def writtenAmount (x : Decimal) : List Char :=
  signChars (x.nearestCents < 0) ++ (AmountText.ofCents x.nearestCents.natAbs).text

theorem amountToChars_eq {x : Decimal} (h : x.isFinite) : amountToChars x =
    if Writable x then .ok (writtenAmount x) else .error .invalidOperation := by
  rw [amountToChars_finite h, writtenAmount, AmountText.text_ofCents]

theorem rounded_neg_iff {x : Decimal} : x.rounded < 0 ↔ x.nearestCents < 0 := by
  rw [← not_le, rounded_nonneg_iff, not_le]

theorem rounded_of_whole {x : Decimal} {n : ℤ} (h : x.toRat = n) : x.rounded = n := by
  rw [rounded_eq_iff.2 ⟨n * 100, by rw [h, Int.cast_mul, Int.cast_ofNat]⟩, h]

/-! ## The form of the text -/

theorem AmountText.toRat_ofCents (n : Nat) : (AmountText.ofCents n).value.toRat = n / 100 := by
  rw [toRat_value, total_ofCents]

theorem AmountText.isSome_cents_ofCents (n : Nat) :
    (AmountText.ofCents n).cents.isSome ↔ n % 100 ≠ 0 := by
  rw [ofCents]
  split <;> simp_all

/-- A number of cents is a whole number if no cents are left over. -/
theorem exists_eq_cents_iff (n : ℤ) : (∃ m : ℤ, (n : ℚ) / 100 = m) ↔ n.natAbs % 100 = 0 := by
  constructor
  · rintro ⟨m, hm⟩
    rw [div_eq_iff (by norm_num)] at hm
    obtain rfl : n = m * 100 := by exact_mod_cast hm
    simp [Int.natAbs_mul]
  · intro h
    obtain ⟨m, rfl⟩ : (100 : ℤ) ∣ n := by omega
    exact ⟨m, by push_cast; ring⟩

theorem shows_writtenAmount (x : Decimal) : Shows (writtenAmount x) x.rounded := by
  refine ⟨.ofCents x.nearestCents.natAbs, ?_, AmountText.canonical_ofCents _, ?_, ?_⟩
  · rw [writtenAmount, decide_eq_decide.2 rounded_neg_iff]
  · rw [AmountText.toRat_ofCents, rounded, abs_div, Nat.cast_natAbs, Int.cast_abs,
      abs_of_pos (by norm_num : (0 : ℚ) < 100)]
  · rw [AmountText.isSome_cents_ofCents, rounded, exists_eq_cents_iff]

/-! ## The other sign -/

theorem nearestCents_neg (x : Decimal) : (-x).nearestCents = -x.nearestCents := by
  rw [nearestCents, toRat_neg, neg_mul, Tie.nearest_neg, nearestCents]

theorem writable_neg {x : Decimal} (h : x.isFinite) (hw : Writable x) : Writable (-x) := by
  have hrounded : (-x).rounded = -x.rounded := by
    rw [rounded, nearestCents_neg, Int.cast_neg, neg_div, rounded]
  rw [writable_iff ((isFinite_neg x).trans h), toRat_neg, hrounded, abs_neg]
  refine ((writable_iff h).1 hw).imp_left ?_
  rintro ⟨n, hn⟩
  exact ⟨-n, by rw [hn, Int.cast_neg]⟩

theorem opposite_text (a : AmountText) (h : a.total ≠ 0) : opposite a.text = '-' :: a.text := by
  have hminus : a.first ≠ '-' := fun h => absurd (h ▸ a.first_digit) (by decide)
  have hzero : a.text ≠ ['0'] := by
    intro htext
    have h0 : a = .ofCents 0 := AmountText.text_injective (by rw [htext]; rfl)
    exact h (h0 ▸ AmountText.total_ofCents 0)
  obtain ⟨cs, hcs⟩ : ∃ cs, a.text = a.first :: cs := ⟨_, rfl⟩
  rw [hcs] at hzero ⊢
  unfold opposite
  split
  · rename_i heq
    exact absurd heq hzero
  · rename_i heq
    exact absurd (List.cons.inj heq).1 hminus
  · rfl

theorem writtenAmount_neg (x : Decimal) : writtenAmount (-x) = opposite (writtenAmount x) := by
  have htotal := AmountText.total_ofCents x.nearestCents.natAbs
  rw [writtenAmount, writtenAmount, nearestCents_neg, Int.natAbs_neg]
  rcases lt_trichotomy x.nearestCents 0 with h | h | h
  · have hpos : ¬-x.nearestCents < 0 := by omega
    rw [decide_eq_true h, decide_eq_false hpos]
    rfl
  · rw [h]
    rfl
  · have hneg : -x.nearestCents < 0 := by omega
    have hpos : ¬x.nearestCents < 0 := by omega
    rw [decide_eq_true hneg, decide_eq_false hpos]
    exact (opposite_text _ (by omega)).symm

/-! ## Reading it again -/

namespace AmountText

theorem filter_text (a : AmountText) : a.text.filter (· ≠ ',') = a.number.text := by
  have hcents : ∀ c ∈ partAfter '.' (a.cents.map (·.chars)), decide (c ≠ ',') = true := by
    intro c hc
    rw [decide_eq_true_eq]
    rintro rfl
    cases hf : a.cents with
    | none => simp [hf, partAfter] at hc
    | some f =>
      rw [hf] at hc
      rcases List.mem_cons.1 hc with hc | hc
      · exact absurd hc (by decide)
      · exact absurd (f.digits _ hc) (by decide)
  rw [text_number, text, List.filter_append, List.filter_eq_self.2 hcents]

theorem length_places (a : AmountText) : a.number.places.length ≤ 2 := by
  obtain ⟨first, more, cents, hfirst, hmore⟩ := a
  cases cents with
  | none => exact Nat.zero_le 2
  | some f => exact f.length_eq.le

/-- The amount with a sign, as it is read. -/
theorem ofText?_signed (a : AmountText) (s : Bool) :
    ofText? (.ofList (signChars s ++ a.number.text)) =
      finite? s a.number.coefficient (-a.number.places.length) := by
  rw [ofText?_numberText, NumberText.lastExponent]
  simp [number]

theorem toRat_signed (a : AmountText) (s : Bool) :
    (Decimal.finite s a.number.coefficient (-a.number.places.length)).toRat =
      (if s then -1 else 1) * a.value.toRat := by
  rw [value_eq_number, toRat_nonnegative, toRat_finite, signed_eq, mul_assoc]

end AmountText

theorem filter_writtenAmount (x : Decimal) : (writtenAmount x).filter (· ≠ ',') =
    signChars (x.nearestCents < 0) ++ (AmountText.ofCents x.nearestCents.natAbs).number.text := by
  rw [writtenAmount, List.filter_append, AmountText.filter_text]
  congr 1
  rw [signChars]
  split <;> rfl

/-- Without its commas the text is read as the number rounded to cents. -/
theorem toRat_of_ofText?_plain {x y : Decimal}
    (h : ofText? (.ofList ((writtenAmount x).filter (· ≠ ','))) = some y) :
    y.isFinite ∧ y.toRat = x.rounded := by
  rw [filter_writtenAmount, AmountText.ofText?_signed] at h
  obtain ⟨-, rfl⟩ := finite?_eq_some_iff.1 h
  refine ⟨rfl, ?_⟩
  rw [AmountText.toRat_signed, AmountText.toRat_ofCents, rounded]
  by_cases hneg : x.nearestCents < 0
  · have habs : (x.nearestCents.natAbs : ℚ) = -x.nearestCents := by
      rw [Nat.cast_natAbs, abs_of_neg hneg, Int.cast_neg]
    rw [habs]
    simp [hneg, neg_div]
  · have habs : (x.nearestCents.natAbs : ℚ) = x.nearestCents := by
      rw [Nat.cast_natAbs, abs_of_nonneg (not_lt.1 hneg)]
    rw [habs]
    simp [hneg]

/-- The text is no longer than that of the number written out, so that it is within reach of the
reader if the number is. -/
theorem exists_ofText?_plain {x : Decimal} (h : x.isFinite) (hw : Writable x)
    (hreach : ofText? x.toText = some x) :
    ∃ y, ofText? (.ofList ((writtenAmount x).filter (· ≠ ','))) = some y := by
  obtain ⟨s, c, e, rfl⟩ := exists_finite h
  rw [ofText?_toText] at hreach
  obtain ⟨⟨-, htop⟩, -⟩ := finite?_eq_some_iff.1 hreach
  rw [filter_writtenAmount, AmountText.ofText?_signed]
  generalize ha : AmountText.ofCents _ = a
  refine ⟨_, finite?_eq_some_iff.2 ⟨⟨?_, ?_⟩, rfl⟩⟩
  · have := a.length_places
    rw [minExponent]
    omega
  rw [maxExponent] at *
  by_cases hzero : a.number.coefficient = 0
  · rw [hzero, show digitCount 0 = 1 from rfl]
    omega
  have hvalue : (a.number.coefficient * 10 ^ (-(a.number.places.length : ℤ)) : ℚ) =
      |(Decimal.finite s c e).rounded| := by
    rw [← toRat_nonnegative, ← AmountText.value_eq_number, ← ha, AmountText.toRat_ofCents, rounded,
      abs_div, Nat.cast_natAbs, Int.cast_abs, abs_of_pos (by norm_num : (0 : ℚ) < 100)]
  have hlog := log_toRat hzero (-(a.number.places.length : ℤ))
  rw [hvalue] at hlog
  have hpos : 0 < |(Decimal.finite s c e).rounded| := by
    rw [← hvalue]
    have : (0 : ℚ) < a.number.coefficient := by exact_mod_cast Nat.pos_of_ne_zero hzero
    exact mul_pos this (ten_zpow_pos _)
  rcases (writable_iff h).1 hw with ⟨n, hn⟩ | hlt
  · have hrounded : |(Decimal.finite s c e).rounded| = c * 10 ^ e := by
      rw [rounded_of_whole hn, ← hn, abs_toRat_finite]
    have hc : c ≠ 0 := by
      rintro rfl
      simp [hrounded] at hpos
    rw [hrounded, log_toRat hc] at hlog
    omega
  · have hlt : |(Decimal.finite s c e).rounded| < ((10 : ℕ) : ℚ) ^ (26 : ℤ) := by exact_mod_cast hlt
    have := (Int.lt_zpow_iff_log_lt (by decide) hpos).1 hlt
    omega

theorem amountToChars_of_rounded {x y : Decimal} (hx : x.isFinite) (hwritable : Writable x)
    (hy : y.isFinite) (h : y.toRat = x.rounded) : amountToChars y = .ok (writtenAmount x) := by
  have hcents : y.nearestCents = x.nearestCents := by
    rw [nearestCents, h, rounded, div_mul_cancel₀ _ (by norm_num), Tie.nearest_intCast]
  have hw : Writable y := by
    rw [writable_iff hx] at hwritable
    rw [writable_iff hy, h]
    refine hwritable.imp ?_ fun hlt => by rwa [rounded, hcents]
    rintro ⟨n, hn⟩
    exact ⟨n, rounded_of_whole hn⟩
  rw [amountToChars_eq hy, if_pos hw, writtenAmount, hcents, writtenAmount]

/-- An amount is written unless it has a fraction and too many digits before the point. The text is
the canonical one of the amount rounded to cents, changes its sign with the amount, and is written
again for what is read from it, which is the rounded amount. It can be read whenever the amount
itself can be, in its exact form. -/
theorem amountToChars_canonical {x : Decimal} (h : x.isFinite) :
    (amountToChars x = .error .invalidOperation ↔
        (¬∃ n : ℤ, x.toRat = n) ∧ 10 ^ 26 ≤ |x.rounded|) ∧
      (¬((¬∃ n : ℤ, x.toRat = n) ∧ 10 ^ 26 ≤ |x.rounded|) →
        ∃ cs, amountToChars x = .ok cs ∧ Shows cs x.rounded ∧
          amountToChars (-x) = .ok (opposite cs) ∧
          (ofText? x.toText = some x → ∃ y, ofText? (.ofList (cs.filter (· ≠ ','))) = some y) ∧
          ∀ y, ofText? (.ofList (cs.filter (· ≠ ','))) = some y →
            y.isFinite ∧ y.toRat = x.rounded ∧ amountToChars y = .ok cs) := by
  have hwritable : ¬((¬∃ n : ℤ, x.toRat = n) ∧ 10 ^ 26 ≤ |x.rounded|) ↔ Writable x := by
    rw [writable_iff h, not_and_or, not_not, not_le]
  constructor
  · rw [amountToChars_eq h, ← not_iff_not, hwritable]
    split
    · rename_i hw
      exact iff_of_true (fun h => by cases h) hw
    · rename_i hw
      exact iff_of_false (fun h => h rfl) hw
  · intro hw
    rw [hwritable] at hw
    rw [amountToChars_eq h, amountToChars_eq ((isFinite_neg x).trans h), if_pos hw,
      if_pos (writable_neg h hw)]
    refine ⟨_, rfl, shows_writtenAmount x, congrArg _ (writtenAmount_neg x),
      exists_ofText?_plain h hw, fun y hy => ?_⟩
    obtain ⟨hfinite, hrat⟩ := toRat_of_ofText?_plain hy
    exact ⟨hfinite, hrat, amountToChars_of_rounded h hw hfinite hrat⟩

/-- Half a cent less than a million is rounded up in size, and the text gets a group more. -/
theorem amountToChars_canonical_carry :
    (Decimal.finite true 999999995 (-3)).isFinite ∧
      Shows "-1,000,000".toList (Decimal.finite true 999999995 (-3)).rounded ∧
      amountToChars (.finite false 999999995 (-3)) = .ok "1,000,000".toList ∧
      ∃ y, ofText? "-1000000" = some y ∧ amountToChars y = .ok "-1,000,000".toList := by
  have hfinite : (Decimal.finite true 999999995 (-3)).isFinite := rfl
  have hwrite : amountToChars (.finite true 999999995 (-3)) = .ok "-1,000,000".toList := by rfl
  obtain ⟨herror, hok⟩ := amountToChars_canonical hfinite
  obtain ⟨cs, hcs, hshows, hneg, hread, hagain⟩ := hok fun hlarge => by
    have := herror.2 hlarge
    rw [hwrite] at this
    cases this
  rw [hwrite] at hcs
  cases hcs
  obtain ⟨y, hy⟩ := hread (by rfl)
  exact ⟨hfinite, hshows, hneg, y, hy, (hagain y hy).2.2⟩

end DatedMoney.Notation
