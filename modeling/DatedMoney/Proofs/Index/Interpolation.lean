import DatedMoney.Proofs.Decimal.Order
import DatedMoney.Proofs.Decimal.Sum
import DatedMoney.Proofs.Index.Table
import DatedMoney.Proofs.Outcome

/-!
# Values between the years of a table

A value on the line between two neighbours takes four steps, and each of them is rounded
(`valueFor_onLine`). It still lies between the values of the neighbours (`Tame.within`), so a table
of positive values has a positive value for every year (`Regular.valueFor`).
-/

namespace DatedMoney

namespace Decimal

/-- The finite numbers below `10 ^ 1000` without a digit below the thousandth place. -/
def InReach (a : Decimal) : Prop :=
  ∃ s c e, a = .finite s c e ∧ -1000 ≤ e ∧ |a.toRat| < 10 ^ (1000 : Int)

/-- The numbers of at most 28 digits, zeros at the end apart. -/
def Short (a : Decimal) : Prop :=
  ∃ s m k e, a = .finite s (m * 10 ^ k) e ∧ m < 10 ^ 28

theorem toRat_ofInt (n : Int) : (ofInt n).toRat = n := by
  have hsigned : signed (decide (n < 0)) n.natAbs = n := by
    rw [signed]
    split
    · rename_i h
      rw [decide_eq_true_eq] at h
      omega
    · rename_i h
      rw [decide_eq_true_eq] at h
      omega
  rw [ofInt, toRat_finite, hsigned, zpow_zero, mul_one]

theorem InReach.isFinite {a : Decimal} (h : a.InReach) : a.isFinite := by
  obtain ⟨s, c, e, rfl, -⟩ := h
  rfl

theorem InReach.abs_lt {a : Decimal} (h : a.InReach) : |a.toRat| < 10 ^ (1000 : Int) := by
  obtain ⟨_, _, _, _, _, hlt⟩ := h
  exact hlt

theorem inReach_of_le {s : Bool} {c : Nat} (hc : c ≤ 10 ^ 100) {e : Int} (he : -1000 ≤ e)
    (he' : e ≤ 0) : (Decimal.finite s c e).InReach := by
  refine ⟨_, _, _, rfl, he, ?_⟩
  have hc : (c : ℚ) ≤ 10 ^ (100 : Int) := by
    rw [zpow_ofNat]
    exact_mod_cast hc
  have he' : (10 : ℚ) ^ e ≤ 1 := zpow_le_one_of_nonpos₀ (by norm_num) he'
  rw [abs_toRat_finite]
  calc (c * 10 ^ e : ℚ) ≤ c := mul_le_of_le_one_right (Nat.cast_nonneg c) he'
    _ ≤ 10 ^ (100 : Int) := hc
    _ < 10 ^ (1000 : Int) := zpow_lt_zpow_right₀ (by norm_num) (by decide)

theorem InReach.exists_unit {a : Decimal} (h : a.InReach) :
    ∃ n : ℤ, a.toRat = n * 10 ^ (-1000 : Int) := by
  obtain ⟨s, c, e, rfl, he, -⟩ := h
  obtain ⟨m, hm⟩ := exists_mul_ten_zpow he
  exact ⟨signed s c * m, by rw [toRat_finite, hm, Int.cast_mul, mul_assoc]⟩

/-- A multiple of a unit is nothing or at least the unit. -/
theorem unit_le_abs {x : ℚ} {k : Int} (h : ∃ n : ℤ, x = n * 10 ^ k) : x = 0 ∨ 10 ^ k ≤ |x| := by
  obtain ⟨n, rfl⟩ := h
  rcases eq_or_ne n 0 with rfl | hn
  · exact .inl (by simp)
  · refine .inr ?_
    rw [abs_mul, abs_of_pos (ten_zpow_pos k)]
    exact le_mul_of_one_le_left (ten_zpow_pos k).le (by exact_mod_cast Int.one_le_abs hn)

theorem InReach.le_abs {a : Decimal} (h : a.InReach) :
    a.toRat = 0 ∨ 10 ^ (-1000 : Int) ≤ |a.toRat| :=
  unit_le_abs h.exists_unit

theorem InReach.le_abs_sub {a b : Decimal} (ha : a.InReach) (hb : b.InReach) :
    a.toRat - b.toRat = 0 ∨ 10 ^ (-1000 : Int) ≤ |a.toRat - b.toRat| := by
  obtain ⟨m, hm⟩ := ha.exists_unit
  obtain ⟨n, hn⟩ := hb.exists_unit
  exact unit_le_abs ⟨m - n, by rw [hm, hn, Int.cast_sub, sub_mul]⟩

/-- Rounding changes nothing about a short number that is not too small. -/
theorem InReach.fits {a : Decimal} (h : a.InReach) (hshort : a.Short) :
    Context.money.Fits a.toRat := by
  obtain ⟨s, m, k, e, rfl, hm⟩ := hshort
  obtain ⟨_, _, _, heq, he, -⟩ := h
  cases heq
  refine ⟨signed s m, k + e, ?_, ?_, ?_⟩
  · rw [toRat_finite, signed_eq, signed_eq, ten_zpow_add, zpow_natCast]
    push_cast
    ring
  · have habs : |signed s m| = m := by exact_mod_cast abs_signed s m
    rw [habs]
    exact_mod_cast hm
  · have hetiny : Context.money.etiny ≤ -1000 := by decide
    omega

theorem le_emax {x : ℚ} {k : Int} (hk : k ≤ Context.money.emax) (h : x ≤ 10 ^ k) :
    x ≤ 10 ^ Context.money.emax :=
  h.trans (zpow_le_zpow_right₀ (by norm_num) hk)

theorem InReach.abs_sub_le {a b : Decimal} (ha : a.InReach) (hb : b.InReach) :
    |a.toRat - b.toRat| ≤ 10 ^ (1001 : Int) :=
  calc |a.toRat - b.toRat| ≤ |a.toRat| + |b.toRat| := abs_sub a.toRat b.toRat
    _ ≤ 10 ^ (1000 : Int) + 10 ^ (1000 : Int) := add_le_add ha.abs_lt.le hb.abs_lt.le
    _ ≤ 10 ^ (1001 : Int) := add_self_zpow_le 1000

end Decimal

namespace Index
open Decimal

/-- The part `r` of the way from `x` to `y`, as it is computed. -/
def onLine (r x y : ℚ) : ℚ :=
  Context.money.nearest (x + Context.money.nearest
    (Context.money.nearest r * Context.money.nearest (y - x)))

section
variable {r : ℚ} (hr : 10 ^ (-20 : Int) ≤ r) (hr' : r ≤ 1 - 10 ^ (-20 : Int))
include hr hr'

/-- A part of the way that does not come too close to either end keeps its distance when it is
rounded. -/
theorem nearest_part : 10 ^ (-20 : Int) ≤ Context.money.nearest r ∧
    Context.money.nearest r ≤ 1 - 10 ^ (-20 : Int) := by
  have hlow : Context.money.Fits (10 ^ (-20 : Int)) :=
    Context.fits_zpow Context.money_proper (by decide)
  have hhigh : Context.money.Fits (1 - 10 ^ (-20 : Int)) :=
    ⟨10 ^ 20 - 1, -20, by norm_num, by decide, by decide⟩
  exact ⟨Context.le_nearest Context.money_proper hlow hr,
    Context.nearest_le Context.money_proper hhigh hr'⟩

/-- The roundings do not carry beyond the end of the way. -/
theorem nearest_part_mul {δ : ℚ} (hδ : δ = 0 ∨ 10 ^ (-1000 : Int) ≤ δ) :
    0 ≤ Context.money.nearest (Context.money.nearest r * Context.money.nearest δ) ∧
      Context.money.nearest (Context.money.nearest r * Context.money.nearest δ) ≤ δ := by
  rcases hδ with rfl | hδ
  · simp
  obtain ⟨hlow, hhigh⟩ := nearest_part hr hr'
  have hpos : 0 < δ := (ten_zpow_pos _).trans_le hδ
  have hfits : Context.money.Fits (10 ^ (-1000 : Int)) :=
    Context.fits_zpow Context.money_proper (by decide)
  have hδ' := Context.le_nearest Context.money_proper hfits hδ
  have herror := Context.abs_money_nearest_sub_le (by decide) (hδ.trans (le_abs_self δ))
  rw [abs_of_pos hpos] at herror
  generalize Context.money.nearest r = r' at *
  generalize Context.money.nearest δ = δ' at *
  have hr0 : 0 < r' := (ten_zpow_pos _).trans_le hlow
  have hδ0 : 0 < δ' := (ten_zpow_pos _).trans_le hδ'
  have hproduct : 0 < r' * δ' := mul_pos hr0 hδ0
  have hsize : (10 : ℚ) ^ (-1020 : Int) ≤ |r' * δ'| := by
    rw [abs_of_pos hproduct, show (-1020 : Int) = -20 + -1000 by rfl, ten_zpow_add]
    exact mul_le_mul hlow hδ' (ten_zpow_pos _).le hr0.le
  have herror' := Context.abs_money_nearest_sub_le (by decide) hsize
  rw [abs_of_pos hproduct] at herror'
  refine ⟨Context.nearest_nonneg hproduct.le, ?_⟩
  have hstep : δ' ≤ δ * (1 + 10 ^ (-27 : Int) / 2) := by linarith [(abs_le.1 herror).2]
  calc Context.money.nearest (r' * δ')
      ≤ r' * δ' * (1 + 10 ^ (-27 : Int) / 2) := by linarith [(abs_le.1 herror').2]
    _ ≤ (1 - 10 ^ (-20 : Int)) * (δ * (1 + 10 ^ (-27 : Int) / 2)) *
          (1 + 10 ^ (-27 : Int) / 2) := by
      have := ten_zpow_pos (-27)
      gcongr
    _ = (1 - 10 ^ (-20 : Int)) * (1 + 10 ^ (-27 : Int) / 2) ^ 2 * δ := by ring
    _ ≤ 1 * δ := mul_le_mul_of_nonneg_right (by norm_num) hpos.le
    _ = δ := one_mul δ

/-- Before the last rounding the point lies between the ends, whether the way leads up or down. -/
theorem add_part_bounds {x y : ℚ} (hxy : y - x = 0 ∨ 10 ^ (-1000 : Int) ≤ |y - x|) :
    min x y ≤ x + Context.money.nearest (Context.money.nearest r * Context.money.nearest (y - x)) ∧
      x + Context.money.nearest (Context.money.nearest r * Context.money.nearest (y - x)) ≤
        max x y := by
  rcases le_total x y with h | h
  · rw [abs_of_nonneg (sub_nonneg.2 h)] at hxy
    have hpart := nearest_part_mul hr hr' hxy
    rw [min_eq_left h, max_eq_right h]
    constructor <;> linarith
  · rw [abs_of_nonpos (sub_nonpos.2 h), neg_sub] at hxy
    have hpart := nearest_part_mul hr hr' (hxy.imp_left fun h => by linarith)
    rw [← neg_sub x y, Context.nearest_neg, mul_neg, Context.nearest_neg, min_eq_right h,
      max_eq_left h]
    constructor <;> linarith

/-- A point on the line between two numbers that fit lies between them. -/
theorem onLine_bounds {x y : ℚ} (hx : Context.money.Fits x) (hy : Context.money.Fits y)
    (hxy : y - x = 0 ∨ 10 ^ (-1000 : Int) ≤ |y - x|) :
    min x y ≤ onLine r x y ∧ onLine r x y ≤ max x y := by
  obtain ⟨hlow, hhigh⟩ := add_part_bounds hr hr' hxy
  have hmin : Context.money.Fits (min x y) := by
    rcases min_choice x y with h | h <;> rwa [h]
  have hmax : Context.money.Fits (max x y) := by
    rcases max_choice x y with h | h <;> rwa [h]
  exact ⟨Context.le_nearest Context.money_proper hmin hlow,
    Context.nearest_le Context.money_proper hmax hhigh⟩

end

/-- A year strictly between two others is neither at the one end nor at the other. -/
theorem part_bounds {part whole : Int} (hpart : 0 < part) (hwhole : part < whole)
    (hlt : whole < 10 ^ 20) :
    10 ^ (-20 : Int) ≤ (part / whole : ℚ) ∧ (part / whole : ℚ) ≤ 1 - 10 ^ (-20 : Int) := by
  have hpos : (0 : ℚ) < whole := by exact_mod_cast hpart.trans hwhole
  have hpart : (1 : ℚ) ≤ part := by exact_mod_cast hpart
  have hwhole : (part + 1 : ℚ) ≤ whole := by exact_mod_cast hwhole
  have hlt : (whole : ℚ) < 10 ^ 20 := by exact_mod_cast hlt
  constructor
  · rw [le_div_iff₀ hpos]
    norm_num
    linarith
  · rw [div_le_iff₀ hpos]
    norm_num
    linarith

/-- However far apart the years are, the part of the way is a part of one. -/
theorem part_unit {part whole : Int} (hpart : 0 < part) (hwhole : part < whole) :
    0 ≤ (part / whole : ℚ) ∧ (part / whole : ℚ) ≤ 1 := by
  have hpos : (0 : ℚ) < whole := by exact_mod_cast hpart.trans hwhole
  have hpart : (0 : ℚ) < part := by exact_mod_cast hpart
  exact ⟨(div_pos hpart hpos).le, (div_le_one hpos).2 (by exact_mod_cast hwhole.le)⟩

namespace Table

/-- What the computation comes to, if it comes to anything. -/
theorem of_interpolate {part whole : Int} (hwhole : whole ≠ 0) {a b d : Decimal} (ha : a.isFinite)
    (hb : b.isFinite) (h : interpolate (.ofInt part) (.ofInt whole) a b = .ok d) :
    d.isFinite ∧ d.toRat = onLine (part / whole) a.toRat b.toRat := by
  obtain ⟨ratio, hratio, h⟩ := Except.bind_eq_ok_iff.1 h
  obtain ⟨diff, hdiff, h⟩ := Except.bind_eq_ok_iff.1 h
  obtain ⟨step, hstep, h⟩ := Except.bind_eq_ok_iff.1 h
  have hne : (ofInt whole).toRat ≠ 0 := by
    rw [toRat_ofInt]
    exact_mod_cast hwhole
  obtain ⟨hratio_fin, hratio_eq⟩ :=
    (Context.div_outcome Context.money_proper rfl rfl hne).of_ok hratio
  obtain ⟨hdiff_fin, hdiff_eq⟩ :=
    (Context.sub_outcome Context.money_proper Context.money_wide hb ha).of_ok hdiff
  obtain ⟨hstep_fin, hstep_eq⟩ :=
    (Context.mul_outcome Context.money_proper hratio_fin hdiff_fin).of_ok hstep
  obtain ⟨hfinite, heq⟩ :=
    (Context.add_outcome Context.money_proper Context.money_wide ha hstep_fin).of_ok h
  rw [toRat_ofInt, toRat_ofInt] at hratio_eq
  refine ⟨hfinite, ?_⟩
  rw [heq, hstep_eq, hdiff_eq, hratio_eq, onLine]

/-- Between numbers of moderate size the computation succeeds. -/
theorem interpolate_eq {part whole : Int} (hpart : 0 < part) (hwhole : part < whole)
    {a b : Decimal} (ha : a.InReach) (hb : b.InReach) :
    ∃ d, interpolate (.ofInt part) (.ofInt whole) a b = .ok d ∧ d.isFinite ∧
      d.toRat = onLine (part / whole) a.toRat b.toRat := by
  obtain ⟨hlow, hhigh⟩ := part_unit hpart hwhole
  have hone : Context.money.Fits 1 := Context.fits_zpow (k := 0) Context.money_proper (by decide)
  have hfits : Context.money.Fits (10 ^ (1001 : Int)) :=
    Context.fits_zpow Context.money_proper (by decide)
  -- The steps in their order: the part, the difference, their product, and the sum.
  obtain ⟨ratio, hratio, hratio_fin, hratio_eq⟩ : ∃ d, Context.money.div (.ofInt part)
      (.ofInt whole) = .ok d ∧ d.isFinite ∧ d.toRat = Context.money.nearest (part / whole) := by
    have hne : (ofInt whole).toRat ≠ 0 := by
      rw [toRat_ofInt]
      exact_mod_cast (hpart.trans hwhole).ne'
    have hsize : |(ofInt part).toRat / (ofInt whole).toRat| ≤ 10 ^ Context.money.emax := by
      rw [toRat_ofInt, toRat_ofInt, abs_of_nonneg hlow]
      exact le_emax (k := 0) (by decide) hhigh
    have hdiv := Context.div_spec Context.money_proper rfl rfl hne hsize
    rwa [toRat_ofInt, toRat_ofInt] at hdiv
  have hratio_le : |ratio.toRat| ≤ 1 := by
    rw [hratio_eq]
    exact Context.abs_nearest_le Context.money_proper hone (by rwa [abs_of_nonneg hlow])
  obtain ⟨diff, hdiff, hdiff_fin, hdiff_eq⟩ :=
    (Context.sub_outcome Context.money_proper Context.money_wide hb.isFinite
      ha.isFinite).exists_ok Context.money_proper (le_emax (by decide) (hb.abs_sub_le ha))
  have hdiff_le : |diff.toRat| ≤ 10 ^ (1001 : Int) := by
    rw [hdiff_eq]
    exact Context.abs_nearest_le Context.money_proper hfits (hb.abs_sub_le ha)
  have hproduct : |ratio.toRat * diff.toRat| ≤ 10 ^ (1001 : Int) := by
    rw [abs_mul]
    exact (mul_le_of_le_one_left (abs_nonneg _) hratio_le).trans hdiff_le
  obtain ⟨step, hstep, hstep_fin, hstep_eq⟩ :=
    Context.mul_spec Context.money_proper hratio_fin hdiff_fin (le_emax (by decide) hproduct)
  have hstep_le : |step.toRat| ≤ 10 ^ (1001 : Int) := by
    rw [hstep_eq]
    exact Context.abs_nearest_le Context.money_proper hfits hproduct
  have hsum : |a.toRat + step.toRat| ≤ 10 ^ (1002 : Int) :=
    calc |a.toRat + step.toRat| ≤ |a.toRat| + |step.toRat| := abs_add_le ..
      _ ≤ 10 ^ (1001 : Int) + 10 ^ (1001 : Int) := by
        refine add_le_add (ha.abs_lt.le.trans ?_) hstep_le
        exact zpow_le_zpow_right₀ (by norm_num) (by decide)
      _ ≤ 10 ^ (1002 : Int) := add_self_zpow_le 1001
  obtain ⟨d, hd, -⟩ :=
    (Context.add_outcome Context.money_proper Context.money_wide ha.isFinite
      hstep_fin).exists_ok Context.money_proper (le_emax (by decide) hsum)
  have hok : interpolate (.ofInt part) (.ofInt whole) a b = .ok d := by
    simp only [interpolate, hratio, hdiff, hstep, Except.ok_bind]
    exact hd
  exact ⟨d, hok, of_interpolate (hpart.trans hwhole).ne' ha.isFinite hb.isFinite hok⟩

/-- The value of a year between two neighbours is a point on the line between their values. -/
theorem valueFor_onLine {t : Table} (ht : ∀ p ∈ t.entries, p.2.InReach) {p q : Int × Decimal}
    (hpq : [p, q] <:+: t.entries) {y : Int} (hp : p.1 < y) (hq : y < q.1) :
    ∃ d, t.valueFor y = .ok d ∧ d.isFinite ∧
      d.toRat = onLine ((y - p.1 : Int) / (q.1 - p.1 : Int)) p.2.toRat q.2.toRat := by
  have hpart : 0 < y - p.1 := by omega
  have hwhole : y - p.1 < q.1 - p.1 := by omega
  obtain ⟨d, hd, hfinite, heq⟩ := interpolate_eq hpart hwhole (ht p (hpq.subset (by simp)))
    (ht q (hpq.subset (by simp)))
  exact ⟨d, by rw [valueFor_inside hpq hp hq, hd]; rfl, hfinite, heq⟩

/-! ## Bounds -/

/-- The tables of numbers that rounding leaves as they are. -/
structure Tame (t : Table) : Prop where
  inReach : ∀ p ∈ t.entries, p.2.InReach
  short : ∀ p ∈ t.entries, p.2.Short

/-- From one neighbour to the next no value lies beyond theirs. -/
theorem Tame.within {t : Table} (ht : t.Tame) {p q : Int × Decimal} (hpq : [p, q] <:+: t.entries)
    (hgap : q.1 < p.1 + 10 ^ 20) {y : Int} (hp : p.1 ≤ y) (hq : y ≤ q.1) :
    ∃ d, t.valueFor y = .ok d ∧ d.isFinite ∧ min p.2.toRat q.2.toRat ≤ d.toRat ∧
      d.toRat ≤ max p.2.toRat q.2.toRat := by
  have hmemp : p ∈ t.entries := hpq.subset (by simp)
  have hmemq : q ∈ t.entries := hpq.subset (by simp)
  rcases hp.eq_or_lt with rfl | hp
  · exact ⟨p.2, valueFor_entry hmemp, (ht.inReach p hmemp).isFinite, min_le_left .., le_max_left ..⟩
  rcases hq.eq_or_lt with rfl | hq
  · exact ⟨q.2, valueFor_entry hmemq, (ht.inReach q hmemq).isFinite, min_le_right ..,
      le_max_right ..⟩
  obtain ⟨d, hd, hfinite, heq⟩ := valueFor_onLine ht.inReach hpq hp hq
  have hpart : 0 < y - p.1 := by omega
  have hwhole : y - p.1 < q.1 - p.1 := by omega
  obtain ⟨hlow, hhigh⟩ := part_bounds hpart hwhole (by omega)
  have hline := onLine_bounds hlow hhigh ((ht.inReach p hmemp).fits (ht.short p hmemp))
    ((ht.inReach q hmemq).fits (ht.short q hmemq))
    ((ht.inReach q hmemq).le_abs_sub (ht.inReach p hmemp))
  rw [← heq] at hline
  exact ⟨d, hd, hfinite, hline⟩

theorem gap_lt {t : Table} (hgaps : t.entries.IsChain fun p q => q.1 < p.1 + 10 ^ 20)
    {p q : Int × Decimal} (hpq : [p, q] <:+: t.entries) : q.1 < p.1 + 10 ^ 20 := by
  have hpair := hgaps.infix hpq
  rwa [List.isChain_pair] at hpair

/-- No value of any year lies beyond those of all entries. -/
theorem Tame.exists_bounds {t : Table} (ht : t.Tame) (hne : t.entries ≠ [])
    (hgaps : t.entries.IsChain fun p q => q.1 < p.1 + 10 ^ 20) (y : Int) :
    ∃ d, t.valueFor y = .ok d ∧ d.isFinite ∧ (∃ p ∈ t.entries, p.2.toRat ≤ d.toRat) ∧
      ∃ q ∈ t.entries, d.toRat ≤ q.2.toRat := by
  rcases valueFor_cases hne y with ⟨p, hp, hvalue⟩ | ⟨p, q, hpq, hpy, hyq⟩
  · exact ⟨p.2, hvalue, (ht.inReach p hp).isFinite, ⟨p, hp, le_rfl⟩, p, hp, le_rfl⟩
  have hp : p ∈ t.entries := hpq.subset (by simp)
  have hq : q ∈ t.entries := hpq.subset (by simp)
  obtain ⟨d, hd, hfinite, hmin, hmax⟩ := ht.within hpq (gap_lt hgaps hpq) hpy.le hyq.le
  refine ⟨d, hd, hfinite, ?_, ?_⟩
  · rcases min_le_iff.1 hmin with h | h
    · exact ⟨p, hp, h⟩
    · exact ⟨q, hq, h⟩
  · rcases le_max_iff.1 hmax with h | h
    · exact ⟨p, hp, h⟩
    · exact ⟨q, hq, h⟩

/-- The tables that have a positive value for each year: the entries are positive, neither too large
nor too small nor too long, and neighbours are not too far apart. -/
structure Regular (t : Table) : Prop where
  nonempty : t.entries ≠ []
  positive : ∀ p ∈ t.entries, 0 < p.2.toRat
  inReach : ∀ p ∈ t.entries, p.2.InReach
  short : ∀ p ∈ t.entries, p.2.Short
  gaps : t.entries.IsChain fun p q => q.1 < p.1 + 10 ^ 20

theorem Regular.valueFor {t : Table} (ht : t.Regular) (y : Int) :
    ∃ d, t.valueFor y = .ok d ∧ d.isFinite ∧ 10 ^ (-1000 : Int) ≤ d.toRat ∧
      d.toRat < 10 ^ (1000 : Int) := by
  obtain ⟨d, hd, hfinite, ⟨p, hp, hpd⟩, q, hq, hdq⟩ :=
    Tame.exists_bounds ⟨ht.inReach, ht.short⟩ ht.nonempty ht.gaps y
  refine ⟨d, hd, hfinite, ?_, hdq.trans_lt (abs_lt.1 (ht.inReach q hq).abs_lt).2⟩
  have hpos := ht.positive p hp
  rcases (ht.inReach p hp).le_abs with h | h
  · exact absurd h hpos.ne'
  · exact (abs_of_pos hpos ▸ h).trans hpd

/-! ## Finite tables -/

theorem isFinite_of_valueFor {t : Table} (ht : ∀ p ∈ t.entries, p.2.isFinite) {y : Int}
    {d : Decimal} (h : t.valueFor y = .ok d) : d.isFinite := by
  rcases valueFor_cases (entries_ne_nil h) y with ⟨p, hp, hvalue⟩ | ⟨p, q, hpq, hpy, hyq⟩
  · cases hvalue.symm.trans h
    exact ht p hp
  · rw [valueFor_inside hpq hpy hyq] at h
    have hline := Except.mapError_eq_ok_iff.1 h
    exact (of_interpolate (by omega) (ht p (hpq.subset (by simp))) (ht q (hpq.subset (by simp)))
      hline).1

end Table
end Index
end DatedMoney
