import DatedMoney.Decimal.Context
import Mathlib.Data.Rat.Floor
import Mathlib.Tactic.FieldSimp
import Mathlib.Tactic.Linarith
import Mathlib.Tactic.NormNum
import Mathlib.Tactic.Positivity
import Mathlib.Tactic.Push

/-!
# The nearest whole number

`Tie.nearest` rounds a rational number to a whole one. It is odd (`nearest_neg`) and monotone
(`nearest_mono`), errs by at most one half (`abs_nearest_sub_le`), and is what `Tie.roundDiv`
computes on a quotient (`roundDiv_eq`).
-/

namespace DatedMoney.Tie

/-- The whole number nearest to `x`. -/
def nearest (tie : Tie) (x : ℚ) : ℤ :=
  match tie with
  | .toEven => if Int.fract x = 1 / 2 ∧ ⌊x⌋ % 2 = 0 then ⌊x⌋ else ⌊x + 1 / 2⌋
  | .away => if x < 0 then ⌈x - 1 / 2⌉ else ⌊x + 1 / 2⌋

variable (tie : Tie)

theorem abs_nearest_sub_le (x : ℚ) : |(tie.nearest x : ℚ) - x| ≤ 1 / 2 := by
  have hfloor : |(⌊x + 1 / 2⌋ : ℚ) - x| ≤ 1 / 2 := by
    rw [abs_le]
    constructor
    · linarith [Int.lt_floor_add_one (x + 1 / 2)]
    · linarith [Int.floor_le (x + 1 / 2)]
  cases tie with
  | toEven =>
    simp only [nearest]
    split
    · rename_i h
      rw [abs_sub_comm, Int.self_sub_floor, h.1, abs_of_pos (by norm_num)]
    · exact hfloor
  | away =>
    simp only [nearest]
    split
    · rw [abs_le]
      constructor
      · linarith [Int.le_ceil (x - 1 / 2)]
      · linarith [Int.ceil_lt_add_one (x - 1 / 2)]
    · exact hfloor

variable {tie}

theorem nearest_eq_of_abs_lt {x : ℚ} {n : ℤ} (h : |(n : ℚ) - x| < 1 / 2) : tie.nearest x = n := by
  have h' := tie.abs_nearest_sub_le x
  rw [abs_lt] at h
  rw [abs_le] at h'
  have h1 : (tie.nearest x : ℚ) < (n + 1 : ℤ) := by push_cast; linarith
  have h2 : (n : ℚ) < (tie.nearest x + 1 : ℤ) := by push_cast; linarith
  have := Int.cast_lt.1 h1
  have := Int.cast_lt.1 h2
  omega

@[simp] theorem nearest_intCast (n : ℤ) : tie.nearest n = n := nearest_eq_of_abs_lt (by simp)

@[simp] theorem nearest_natCast (n : ℕ) : tie.nearest n = n := by
  have h : tie.nearest ((n : ℤ) : ℚ) = n := nearest_intCast n
  exact_mod_cast h

@[simp] theorem nearest_zero : tie.nearest 0 = 0 := by
  have h : tie.nearest ((0 : ℤ) : ℚ) = 0 := nearest_intCast 0
  exact_mod_cast h

theorem nearest_mono {x y : ℚ} (h : x ≤ y) : tie.nearest x ≤ tie.nearest y := by
  by_contra hlt
  push Not at hlt
  have hlt : ((tie.nearest y + 1 : ℤ) : ℚ) ≤ tie.nearest x := Int.cast_le.2 hlt
  push_cast at hlt
  have hx := (abs_le.1 (tie.abs_nearest_sub_le x)).2
  have hy := (abs_le.1 (tie.abs_nearest_sub_le y)).1
  -- Only equal numbers leave room for results in the wrong order.
  obtain rfl : x = y := by linarith
  linarith

theorem nearest_nonneg {x : ℚ} (h : 0 ≤ x) : 0 ≤ tie.nearest x := by
  have h : tie.nearest 0 ≤ tie.nearest x := nearest_mono h
  rwa [nearest_zero] at h

/-- A number halfway between two whole ones. -/
theorem nearest_half (q : ℤ) : tie.nearest (q + 1 / 2) =
    match tie with
    | .toEven => if q % 2 = 0 then q else q + 1
    | .away => if q < 0 then q else q + 1 := by
  have hfloor : ⌊(q : ℚ) + 1 / 2⌋ = q := by
    rw [Int.floor_intCast_add]
    norm_num
  have hnext : ⌊(q : ℚ) + 1 / 2 + 1 / 2⌋ = q + 1 := by
    rw [add_assoc, add_halves]
    simp
  cases tie with
  | toEven =>
    have hfract : Int.fract ((q : ℚ) + 1 / 2) = 1 / 2 := by
      rw [Int.fract_intCast_add]
      norm_num
    simp only [nearest, hfract, hfloor, hnext, true_and]
  | away =>
    have hneg : (q : ℚ) + 1 / 2 < 0 ↔ q < 0 := by
      constructor
      · intro h
        exact_mod_cast (by linarith : (q : ℚ) < 0)
      · intro h
        have : ((q + 1 : ℤ) : ℚ) ≤ 0 := by exact_mod_cast h
        push_cast at this
        linarith
    simp only [nearest, hneg, hnext, add_sub_cancel_right, Int.ceil_intCast]

/-- Every number is near a whole one or halfway between two. -/
theorem near_or_half (x : ℚ) : (∃ n : ℤ, |(n : ℚ) - x| < 1 / 2) ∨ ∃ q : ℤ, x = q + 1 / 2 := by
  have h0 := Int.fract_nonneg x
  have h1 := Int.fract_lt_one x
  have hx := Int.floor_add_fract x
  rcases lt_trichotomy (Int.fract x) (1 / 2) with h | h | h
  · refine .inl ⟨⌊x⌋, ?_⟩
    rw [abs_sub_comm, Int.self_sub_floor, abs_of_nonneg h0]
    exact h
  · exact .inr ⟨⌊x⌋, by linarith⟩
  · refine .inl ⟨⌊x⌋ + 1, ?_⟩
    rw [abs_lt]
    push_cast
    constructor <;> linarith

@[simp] theorem nearest_neg (x : ℚ) : tie.nearest (-x) = -tie.nearest x := by
  rcases near_or_half x with ⟨n, h⟩ | ⟨q, rfl⟩
  · rw [nearest_eq_of_abs_lt h, nearest_eq_of_abs_lt]
    rwa [abs_sub_comm, Int.cast_neg, neg_sub_neg]
  · have hq : -((q : ℚ) + 1 / 2) = ((-q - 1 : ℤ) : ℚ) + 1 / 2 := by push_cast; ring
    rw [hq, nearest_half, nearest_half]
    cases tie
    all_goals
      dsimp only
      split <;> split <;> omega

theorem abs_nearest (x : ℚ) : |tie.nearest x| = tie.nearest |x| := by
  rcases le_total 0 x with h | h
  · rw [abs_of_nonneg h, abs_of_nonneg (nearest_nonneg h)]
  · rw [abs_of_nonpos h, nearest_neg, abs_of_nonpos]
    have hneg : 0 ≤ tie.nearest (-x) := nearest_nonneg (neg_nonneg.2 h)
    rw [nearest_neg] at hneg
    omega

/-- Rounding away from zero reaches the next whole number from one half on. -/
theorem le_away_nearest_iff {x : ℚ} (hx : 0 ≤ x) (n : ℤ) :
    n ≤ away.nearest x ↔ (n : ℚ) - 1 / 2 ≤ x := by
  rw [nearest]
  simp only [hx.not_gt, if_false, Int.le_floor]
  constructor <;> intro h <;> linarith

/-- Neither of two numbers reaches a half, counted from zero, that the other does not reach. -/
def SameSide (x y : ℚ) : Prop := ∀ k : ℕ, (k : ℚ) + 1 / 2 ≤ |x| ↔ (k : ℚ) + 1 / 2 ≤ |y|

theorem SameSide.le {x y : ℚ} (h : SameSide x y) (hx : 0 ≤ x) (hy : 0 ≤ y) :
    away.nearest x ≤ away.nearest y := by
  have hnonneg : 0 ≤ away.nearest x := nearest_nonneg hx
  obtain ⟨n, hn⟩ := Int.eq_ofNat_of_zero_le hnonneg
  cases n with
  | zero => exact hn ▸ nearest_nonneg hy
  | succ k =>
    have hk := (le_away_nearest_iff hx _).1 hn.ge
    rw [hn, le_away_nearest_iff hy]
    have hside := h k
    rw [abs_of_nonneg hx, abs_of_nonneg hy] at hside
    push_cast at hk ⊢
    have := hside.1 (by linarith)
    linarith

theorem SameSide.symm {x y : ℚ} (h : SameSide x y) : SameSide y x := fun k => (h k).symm

/-- Numbers that are no further apart than the first is from all halves. -/
theorem SameSide.of_abs_sub_le {x y ε : ℚ} (h : |x - y| ≤ ε)
    (hx : ∀ k : ℕ, ε < |(k : ℚ) + 1 / 2 - abs x|) :
    SameSide x y := by
  intro k
  have hxy := abs_le.1 ((abs_abs_sub_abs_le x y).trans h)
  rcases lt_abs.1 (hx k) with hk | hk
  · exact iff_of_false (by linarith) (by linarith)
  · exact iff_of_true (by linarith) (by linarith)

theorem away_nearest_eq_iff_of_nonneg {x y : ℚ} (hx : 0 ≤ x) (hy : 0 ≤ y) :
    away.nearest x = away.nearest y ↔ SameSide x y := by
  constructor
  · intro h k
    have hk (z : ℚ) (hz : 0 ≤ z) : (k : ℚ) + 1 / 2 ≤ |z| ↔ ((k + 1 : ℕ) : ℤ) ≤ away.nearest z := by
      rw [le_away_nearest_iff hz, abs_of_nonneg hz]
      push_cast
      constructor <;> intro h <;> linarith
    rw [hk x hx, hk y hy, h]
  · exact fun h => le_antisymm (h.le hx hy) (h.symm.le hy hx)

/-- Numbers of one sign have the same nearest whole number exactly if no half is between them. -/
theorem away_nearest_eq_iff {x y : ℚ} (h : 0 ≤ x ∧ 0 ≤ y ∨ x ≤ 0 ∧ y ≤ 0) :
    away.nearest x = away.nearest y ↔ SameSide x y := by
  rcases h with ⟨hx, hy⟩ | ⟨hx, hy⟩
  · exact away_nearest_eq_iff_of_nonneg hx hy
  · have h := away_nearest_eq_iff_of_nonneg (neg_nonneg.2 hx) (neg_nonneg.2 hy)
    rw [nearest_neg, nearest_neg, neg_inj] at h
    rw [h]
    simp only [SameSide, abs_neg]

/-- Numbers less than one apart have nearest whole numbers at most one apart. -/
theorem abs_nearest_sub_nearest_le {x y : ℚ} (h : |x - y| < 1) :
    |tie.nearest x - tie.nearest y| ≤ 1 := by
  have hx := abs_le.1 (tie.abs_nearest_sub_le x)
  have hy := abs_le.1 (tie.abs_nearest_sub_le y)
  have h := abs_lt.1 h
  have h2 : |((tie.nearest x - tie.nearest y : ℤ) : ℚ)| < (2 : ℤ) := by
    rw [abs_lt]
    push_cast
    constructor <;> linarith
  rw [← Int.cast_abs, Int.cast_lt] at h2
  omega

/-- The quotient of whole numbers, in whole numbers. -/
theorem roundDiv_eq (n : Nat) {d : Nat} (hd : 0 < d) :
    (tie.roundDiv n d : ℤ) = tie.nearest (n / d) := by
  have hd' : (0 : ℚ) < d := by exact_mod_cast hd
  have hn : (n : ℚ) / d = ((n / d : ℕ) : ℤ) + (n % d : ℕ) / d := by
    rw [div_eq_iff hd'.ne', add_mul, div_mul_cancel₀ _ hd'.ne', Int.cast_natCast]
    exact_mod_cast congrArg (Nat.cast (R := ℚ)) (Nat.div_add_mod' n d).symm
  have hr : n % d < d := Nat.mod_lt n hd
  rw [hn]
  unfold roundDiv
  generalize n / d = q at *
  generalize n % d = r at *
  have hr0 : (0 : ℚ) ≤ r / d := by positivity
  have hr1 : (r : ℚ) / d < 1 := by
    rw [div_lt_one hd']
    exact_mod_cast hr
  dsimp only
  split
  · rename_i h
    have h : (r : ℚ) / d < 1 / 2 := by
      rw [div_lt_div_iff₀ hd' (by norm_num)]
      exact_mod_cast (by omega : r * 2 < 1 * d)
    refine (nearest_eq_of_abs_lt ?_).symm
    rw [abs_lt]
    constructor <;> linarith
  split
  · rename_i h
    have h : (1 : ℚ) / 2 < r / d := by
      rw [div_lt_div_iff₀ (by norm_num) hd']
      exact_mod_cast (by omega : 1 * d < r * 2)
    refine (nearest_eq_of_abs_lt ?_).symm
    rw [abs_lt]
    push_cast
    constructor <;> linarith
  · have h : (r : ℚ) / d = 1 / 2 := by
      rw [div_eq_div_iff hd'.ne' (by norm_num)]
      exact_mod_cast (by omega : r * 2 = 1 * d)
    rw [h, nearest_half]
    cases tie with
    | toEven =>
      dsimp only
      split <;> split <;> omega
    | away =>
      dsimp only
      rw [if_neg (by omega)]
      rfl

end DatedMoney.Tie
