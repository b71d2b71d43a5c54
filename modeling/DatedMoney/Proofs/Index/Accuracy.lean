import DatedMoney.Proofs.Index.Monotone

/-!
# How far a value between neighbours is from the line

Each of the four steps to a value between neighbours is rounded, and the difference of the
neighbours may be small beside either. The errors still add up to less than three units of the digit
28 of the larger neighbour (`abs_valueFor_sub_le`), however many digits the neighbours have and
however far apart their years are.
-/

namespace DatedMoney.Index
open Decimal

/-- The relative error of one rounding, with some room for what the least exponent may add. -/
def slack : ℚ := 101 / 2 * 10 ^ (-29 : Int)

theorem abs_nearest_sub_le_slack {x b : ℚ} (hb : 10 ^ (-1000 : Int) ≤ b) (hx : |x| ≤ b) :
    |Context.money.nearest x - x| ≤ b * slack := by
  have htiny : (10 : ℚ) ^ Context.money.etiny ≤ b * 10 ^ (-29 : Int) :=
    calc (10 : ℚ) ^ Context.money.etiny ≤ 10 ^ (-1029 : Int) :=
          zpow_le_zpow_right₀ (by norm_num) (by decide)
      _ = 10 ^ (-1000 : Int) * 10 ^ (-29 : Int) := by rw [← ten_zpow_add]; rfl
      _ ≤ b * 10 ^ (-29 : Int) := mul_le_mul_of_nonneg_right hb (ten_zpow_pos _).le
  have hpart : |x| * 10 ^ (-27 : Int) ≤ b * (100 * 10 ^ (-29 : Int)) :=
    calc |x| * 10 ^ (-27 : Int) ≤ b * 10 ^ (-27 : Int) :=
          mul_le_mul_of_nonneg_right hx (ten_zpow_pos _).le
      _ = b * (100 * 10 ^ (-29 : Int)) := by norm_num
  calc |Context.money.nearest x - x|
      ≤ |x| * 10 ^ (-27 : Int) / 2 + 10 ^ Context.money.etiny / 2 :=
        Context.money.abs_nearest_sub_le_add x
    _ ≤ b * (100 * 10 ^ (-29 : Int)) / 2 + b * 10 ^ (-29 : Int) / 2 := by gcongr
    _ = b * slack := by rw [slack]; ring

theorem abs_mul_sub_mul_le (r r' z z' : ℚ) :
    |r' * z' - r * z| ≤ |r'| * |z' - z| + |r' - r| * |z| := by
  have hsplit : r' * z' - r * z = r' * (z' - z) + (r' - r) * z := by ring
  rw [hsplit, ← abs_mul, ← abs_mul]
  exact abs_add_le ..

/-- A point between two numbers is not beyond them. -/
theorem abs_add_mul_sub_le {r x y b : ℚ} (hr : 0 ≤ r) (hr' : r ≤ 1) (hx : 0 ≤ x) (hxb : x ≤ b)
    (hy : 0 ≤ y) (hyb : y ≤ b) : |x + r * (y - x)| ≤ b := by
  have hsplit : x + r * (y - x) = (1 - r) * x + r * y := by ring
  have hleft : 0 ≤ 1 - r := sub_nonneg.2 hr'
  rw [hsplit, abs_of_nonneg (add_nonneg (mul_nonneg hleft hx) (mul_nonneg hr hy))]
  calc (1 - r) * x + r * y ≤ (1 - r) * b + r * b :=
        add_le_add (mul_le_mul_of_nonneg_left hxb hleft) (mul_le_mul_of_nonneg_left hyb hr)
    _ = b := by ring

theorem abs_onLine_sub_le {r x y b : ℚ} (hr : 0 ≤ r) (hr' : r ≤ 1) (hb : 10 ^ (-1000 : Int) ≤ b)
    (hx : 0 ≤ x) (hxb : x ≤ b) (hy : 0 ≤ y) (hyb : y ≤ b) :
    |onLine r x y - (x + r * (y - x))| ≤ 3 * 10 ^ (-27 : Int) * b := by
  have hbpos : 0 < b := (ten_zpow_pos _).trans_le hb
  have hslack : 0 ≤ slack := by norm_num [slack]
  have hgrow {k : ℚ} (hk : 0 ≤ k) : 10 ^ (-1000 : Int) ≤ b * (1 + k) :=
    hb.trans (le_mul_of_one_le_right hbpos.le (le_add_of_nonneg_right hk))
  have hway : |y - x| ≤ b := abs_le.2 ⟨by linarith, by linarith⟩
  -- The part and the way, each rounded.
  have hpart := abs_nearest_sub_le_slack (zpow_le_one_of_nonpos₀ (by norm_num) (by decide))
    ((abs_of_nonneg hr).trans_le hr')
  have hpart_le := Context.abs_nearest_le Context.money_proper
    (Context.fits_zpow (k := 0) Context.money_proper (by decide)) ((abs_of_nonneg hr).trans_le hr')
  have hway_error := abs_nearest_sub_le_slack hb hway
  rw [onLine]
  rw [zpow_zero] at hpart_le
  generalize Context.money.nearest r = r' at *
  generalize Context.money.nearest (y - x) = z at *
  -- Their product, rounded.
  have hproduct : |r' * z - r * (y - x)| ≤ b * (2 * slack) :=
    calc |r' * z - r * (y - x)| ≤ |r'| * |z - (y - x)| + |r' - r| * |y - x| :=
          abs_mul_sub_mul_le ..
      _ ≤ 1 * (b * slack) + 1 * slack * b := by gcongr
      _ = b * (2 * slack) := by ring
  have hexact : |r * (y - x)| ≤ b := by
    rw [abs_mul, abs_of_nonneg hr]
    exact (mul_le_of_le_one_left (abs_nonneg _) hr').trans hway
  have hsize : |r' * z| ≤ b * (1 + 2 * slack) := by
    linarith [abs_sub_abs_le_abs_sub (r' * z) (r * (y - x))]
  have hproduct_error := abs_nearest_sub_le_slack (hgrow (by linarith)) hsize
  generalize Context.money.nearest (r' * z) = p at *
  -- The sum, rounded.
  have hsum : |x + p - (x + r * (y - x))| ≤ b * (3 * slack + 2 * slack ^ 2) :=
    calc |x + p - (x + r * (y - x))| = |p - r * (y - x)| := by rw [add_sub_add_left_eq_sub]
      _ ≤ |p - r' * z| + |r' * z - r * (y - x)| := abs_sub_le ..
      _ ≤ b * (1 + 2 * slack) * slack + b * (2 * slack) := add_le_add hproduct_error hproduct
      _ = b * (3 * slack + 2 * slack ^ 2) := by ring
  have hsize : |x + p| ≤ b * (1 + (3 * slack + 2 * slack ^ 2)) := by
    have hbetween := abs_add_mul_sub_le hr hr' hx hxb hy hyb
    linarith [abs_sub_abs_le_abs_sub (x + p) (x + r * (y - x))]
  have hsum_error := abs_nearest_sub_le_slack (hgrow (by positivity)) hsize
  calc |Context.money.nearest (x + p) - (x + r * (y - x))|
      ≤ |Context.money.nearest (x + p) - (x + p)| + |x + p - (x + r * (y - x))| := abs_sub_le ..
    _ ≤ b * (1 + (3 * slack + 2 * slack ^ 2)) * slack + b * (3 * slack + 2 * slack ^ 2) :=
      add_le_add hsum_error hsum
    _ = (4 * slack + 5 * slack ^ 2 + 2 * slack ^ 3) * b := by ring
    _ ≤ 3 * 10 ^ (-27 : Int) * b :=
      mul_le_mul_of_nonneg_right (by norm_num [slack]) hbpos.le

namespace Table

/-- A value strictly between two neighbours comes close to the point that lies exactly on the line
between their values. -/
theorem abs_valueFor_sub_le {t : Table} (hpos : ∀ p ∈ t.entries, 0 < p.2.toRat)
    (hreach : ∀ p ∈ t.entries, p.2.InReach) {p q : Int × Decimal} (hpq : [p, q] <:+: t.entries)
    {y : Int} (hp : p.1 < y) (hq : y < q.1) :
    ∃ d, t.valueFor y = .ok d ∧ d.isFinite ∧
      |d.toRat - (p.2.toRat + (y - p.1) / (q.1 - p.1) * (q.2.toRat - p.2.toRat))| ≤
        3 * 10 ^ (-27 : Int) * max p.2.toRat q.2.toRat := by
  have hmemp : p ∈ t.entries := hpq.subset (by simp)
  have hmemq : q ∈ t.entries := hpq.subset (by simp)
  obtain ⟨d, hd, hfinite, hline⟩ := valueFor_onLine hreach hpq hp hq
  have hpart : 0 < y - p.1 := by omega
  have hwhole : y - p.1 < q.1 - p.1 := by omega
  obtain ⟨hlow, hhigh⟩ := part_unit hpart hwhole
  have hmin : 10 ^ (-1000 : Int) ≤ p.2.toRat := by
    have hle := (hreach p hmemp).le_abs.resolve_left (hpos p hmemp).ne'
    rwa [abs_of_pos (hpos p hmemp)] at hle
  have herror := abs_onLine_sub_le hlow hhigh (hmin.trans (le_max_left ..)) (hpos p hmemp).le
    (le_max_left p.2.toRat q.2.toRat) (hpos q hmemq).le (le_max_right ..)
  rw [← hline] at herror
  push_cast at herror
  exact ⟨d, hd, hfinite, herror⟩

/-- Two of seven years on the way from 9.9 to 20 the exact value does not end. -/
theorem abs_valueFor_sub_le_sevenths :
    (∀ p ∈ prices.entries, 0 < p.2.toRat) ∧ (∀ p ∈ prices.entries, p.2.InReach) ∧
      ∃ d, prices.valueFor 1915 = .ok d ∧ d.toRat ≠ 99 / 10 + 2 / 7 * (101 / 10) ∧
        |d.toRat - (99 / 10 + 2 / 7 * (101 / 10))| ≤ 3 * 10 ^ (-27 : Int) * 20 := by
  obtain ⟨d, hd, -, herror⟩ := abs_valueFor_sub_le (y := 1915) positive_prices tame_prices.inReach
    (p := (1913, .finite false 99 (-1))) (q := (1920, .finite false 200 (-1))) ⟨[], _, rfl⟩
    (by decide) (by decide)
  have hvalue : d = .finite false 1278571428571428571428571429 (-26) := by
    cases hd.symm.trans (by rfl :
      prices.valueFor 1915 = .ok (.finite false 1278571428571428571428571429 (-26)))
    rfl
  refine ⟨positive_prices, tame_prices.inReach, d, hd, ?_, ?_⟩
  · rw [hvalue, toRat_nonnegative]
    norm_num
  · rw [toRat_nonnegative, toRat_nonnegative] at herror
    norm_num at herror ⊢
    exact herror

end Table
end DatedMoney.Index
