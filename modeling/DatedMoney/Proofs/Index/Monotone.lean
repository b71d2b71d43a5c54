import DatedMoney.Proofs.Index.Interpolation

/-!
# The values of a table in the order of the years

From one entry to the next the values of the years lead from the one value to the other, up or down,
without a step back and without a step too far. So a table has no value beyond those of its entries,
and if these never decrease, neither do the values of all years (`valueFor_ordered`).
-/

namespace DatedMoney.Index
open Decimal

/-! ## Points on one line -/

theorem onLine_mono {r r' x y : ℚ} (hr : r ≤ r') (hxy : x ≤ y) : onLine r x y ≤ onLine r' x y := by
  have hpart := Context.nearest_mono Context.money_proper hr
  have hway : 0 ≤ Context.money.nearest (y - x) := Context.nearest_nonneg (sub_nonneg.2 hxy)
  have hstep := Context.nearest_mono Context.money_proper (mul_le_mul_of_nonneg_right hpart hway)
  exact Context.nearest_mono Context.money_proper (add_le_add_right hstep x)

theorem onLine_neg (r x y : ℚ) : onLine r (-x) (-y) = -onLine r x y := by
  have hway : -y - -x = -(y - x) := by ring
  rw [onLine, hway, Context.nearest_neg, mul_neg, Context.nearest_neg, ← neg_add,
    Context.nearest_neg, onLine]

theorem onLine_anti {r r' x y : ℚ} (hr : r ≤ r') (hxy : y ≤ x) : onLine r' x y ≤ onLine r x y := by
  have hneg := onLine_mono hr (neg_le_neg hxy)
  rwa [onLine_neg, onLine_neg, neg_le_neg_iff] at hneg

namespace Table
variable {t : Table}

/-- From one neighbour to the next the values follow the direction in which the two differ. -/
theorem Tame.follows (ht : t.Tame) {p q : Int × Decimal} (hpq : [p, q] <:+: t.entries)
    (hgap : q.1 < p.1 + 10 ^ 20) {y y' : Int} (hp : p.1 ≤ y) (hy : y ≤ y') (hq : y' ≤ q.1)
    {d d' : Decimal} (hd : t.valueFor y = .ok d) (hd' : t.valueFor y' = .ok d') :
    (p.2.toRat ≤ q.2.toRat → d.toRat ≤ d'.toRat) ∧
      (q.2.toRat ≤ p.2.toRat → d'.toRat ≤ d.toRat) := by
  have hmemp : p ∈ t.entries := hpq.subset (by simp)
  have hmemq : q ∈ t.entries := hpq.subset (by simp)
  rcases hp.eq_or_lt with rfl | hp
  · cases hd.symm.trans (valueFor_entry hmemp)
    obtain ⟨e, he, -, hmin, hmax⟩ := ht.within hpq hgap hy hq
    cases hd'.symm.trans he
    exact ⟨fun h => min_eq_left h ▸ hmin, fun h => max_eq_left h ▸ hmax⟩
  rcases hq.eq_or_lt with rfl | hq
  · cases hd'.symm.trans (valueFor_entry hmemq)
    obtain ⟨e, he, -, hmin, hmax⟩ := ht.within hpq hgap hp.le hy
    cases hd.symm.trans he
    exact ⟨fun h => max_eq_right h ▸ hmax, fun h => min_eq_right h ▸ hmin⟩
  obtain ⟨e, he, -, hline⟩ := valueFor_onLine ht.inReach hpq hp (hy.trans_lt hq)
  obtain ⟨e', he', -, hline'⟩ := valueFor_onLine ht.inReach hpq (hp.trans_le hy) hq
  cases hd.symm.trans he
  cases hd'.symm.trans he'
  have hwhole : (0 : ℚ) < (q.1 - p.1 : Int) := by exact_mod_cast (by omega : 0 < q.1 - p.1)
  have hpart : ((y - p.1 : Int) / (q.1 - p.1 : Int) : ℚ) ≤ (y' - p.1 : Int) / (q.1 - p.1 : Int) :=
    (div_le_div_iff_of_pos_right hwhole).2 (by exact_mod_cast (by omega : y - p.1 ≤ y' - p.1))
  rw [hline, hline']
  exact ⟨onLine_mono hpart, onLine_anti hpart⟩

/-! ## Rising tables -/

/-- The values never decrease with the year. -/
def Rising (t : Table) : Prop :=
  ∀ p ∈ t.entries, ∀ q ∈ t.entries, p.1 ≤ q.1 → p.2.toRat ≤ q.2.toRat

section
variable (ht : t.Tame) (hgaps : t.entries.IsChain fun p q => q.1 < p.1 + 10 ^ 20)
include ht hgaps

theorem Rising.entry_le (hrising : t.Rising) {p : Int × Decimal} (hp : p ∈ t.entries) {y : Int}
    (hy : p.1 ≤ y) {d : Decimal} (hd : t.valueFor y = .ok d) : p.2.toRat ≤ d.toRat := by
  rcases exists_segment (List.ne_nil_of_mem hp) y with ⟨e, he, hye⟩ | ⟨e, he, hye⟩ |
    ⟨a, b, hab, hay, hyb⟩
  · have := le_of_head? t.ascending he p hp
    omega
  · cases hd.symm.trans (valueFor_after he hye)
    exact hrising p hp e (List.mem_of_getLast? he) (le_of_getLast? t.ascending he p hp)
  · have ha : a ∈ t.entries := hab.subset (by simp)
    have hb : b ∈ t.entries := hab.subset (by simp)
    obtain ⟨d', hd', -, hmin, -⟩ := ht.within hab (gap_lt hgaps hab) hay hyb.le
    cases hd.symm.trans hd'
    rw [min_eq_left (hrising a ha b hb (lt_next hab).le)] at hmin
    exact (hrising p hp a ha (le_of_lt_next hab hp (hy.trans_lt hyb))).trans hmin

theorem Rising.valueFor_le (hrising : t.Rising) {y y' : Int} (hy : y ≤ y') {d d' : Decimal}
    (hd : t.valueFor y = .ok d) (hd' : t.valueFor y' = .ok d') : d.toRat ≤ d'.toRat := by
  rcases exists_segment (entries_ne_nil hd) y with
    ⟨e, he, hye⟩ | ⟨e, he, hye⟩ | ⟨a, b, hab, hay, hyb⟩
  · cases hd.symm.trans (valueFor_before he hye)
    rcases Int.lt_or_le y' e.1 with hye' | hye'
    · cases hd'.symm.trans (valueFor_before he hye')
      exact le_rfl
    · exact hrising.entry_le ht hgaps (List.mem_of_head? he) hye' hd'
  · cases hd.symm.trans (valueFor_after he hye)
    cases hd'.symm.trans (valueFor_after he (hye.trans hy))
    exact le_rfl
  · have ha : a ∈ t.entries := hab.subset (by simp)
    have hb : b ∈ t.entries := hab.subset (by simp)
    have hle := hrising a ha b hb (lt_next hab).le
    rcases Int.le_total y' b.1 with hyb' | hyb'
    · exact (ht.follows hab (gap_lt hgaps hab) hay hy hyb' hd hd').1 hle
    · obtain ⟨e, he, -, -, hmax⟩ := ht.within hab (gap_lt hgaps hab) hay hyb.le
      cases hd.symm.trans he
      rw [max_eq_right hle] at hmax
      exact hmax.trans (hrising.entry_le ht hgaps hb hyb' hd')

end

/-- Between neighbours that are not too far apart the values keep within theirs and to their
direction. If there are no other neighbours, every year has a value, and it lies between values of
entries; it is positive if these are, and never decreases if these never do. -/
theorem valueFor_ordered (ht : t.Tame) :
    (∀ p q, [p, q] <:+: t.entries → q.1 < p.1 + 10 ^ 20 →
      ∀ y y', p.1 ≤ y → y ≤ y' → y' ≤ q.1 →
        ∃ d d', t.valueFor y = .ok d ∧ t.valueFor y' = .ok d' ∧ d.isFinite ∧ d'.isFinite ∧
          (p.2.toRat ≤ q.2.toRat →
            p.2.toRat ≤ d.toRat ∧ d.toRat ≤ d'.toRat ∧ d'.toRat ≤ q.2.toRat) ∧
          (q.2.toRat ≤ p.2.toRat →
            q.2.toRat ≤ d'.toRat ∧ d'.toRat ≤ d.toRat ∧ d.toRat ≤ p.2.toRat)) ∧
      (t.entries ≠ [] → (t.entries.IsChain fun p q => q.1 < p.1 + 10 ^ 20) →
        (∀ y, ∃ d, t.valueFor y = .ok d ∧ d.isFinite ∧ (∃ p ∈ t.entries, p.2.toRat ≤ d.toRat) ∧
          (∃ q ∈ t.entries, d.toRat ≤ q.2.toRat) ∧
          ((∀ p ∈ t.entries, 0 < p.2.toRat) → 0 < d.toRat)) ∧
        (t.Rising → ∀ y y', y ≤ y' → ∀ d d', t.valueFor y = .ok d → t.valueFor y' = .ok d' →
          d.toRat ≤ d'.toRat)) := by
  refine ⟨fun p q hpq hgap y y' hp hy hq => ?_, fun hne hgaps => ⟨fun y => ?_, ?_⟩⟩
  · obtain ⟨d, hd, hfinite, hmin, hmax⟩ := ht.within hpq hgap hp (hy.trans hq)
    obtain ⟨d', hd', hfinite', hmin', hmax'⟩ := ht.within hpq hgap (hp.trans hy) hq
    obtain ⟨hup, hdown⟩ := ht.follows hpq hgap hp hy hq hd hd'
    refine ⟨d, d', hd, hd', hfinite, hfinite', fun h => ?_, fun h => ?_⟩
    · exact ⟨min_eq_left h ▸ hmin, hup h, max_eq_right h ▸ hmax'⟩
    · exact ⟨min_eq_right h ▸ hmin', hdown h, max_eq_left h ▸ hmax⟩
  · obtain ⟨d, hd, hfinite, ⟨p, hp, hpd⟩, hhigh⟩ := ht.exists_bounds hne hgaps y
    exact ⟨d, hd, hfinite, ⟨p, hp, hpd⟩, hhigh, fun hpos => (hpos p hp).trans_le hpd⟩
  · exact fun hrising y y' hy d d' hd hd' => hrising.valueFor_le ht hgaps hy hd hd'

/-- A table that rises and then falls. -/
def prices : Table :=
  .ofPairs "prices" [(1913, .finite false 99 (-1)), (1920, .finite false 200 (-1)),
    (1930, .finite false 167 (-1))]

theorem forall_prices {P : Int × Decimal → Prop} (h : P (1913, .finite false 99 (-1)))
    (h' : P (1920, .finite false 200 (-1))) (h'' : P (1930, .finite false 167 (-1))) :
    ∀ p ∈ prices.entries, P p :=
  List.forall_mem_cons.2 ⟨h, List.forall_mem_cons.2 ⟨h', List.forall_mem_singleton.2 h''⟩⟩

theorem tame_prices : prices.Tame := by
  refine ⟨forall_prices ?_ ?_ ?_, forall_prices ?_ ?_ ?_⟩
  · exact inReach_of_le (by decide) (by decide) (by decide)
  · exact inReach_of_le (by decide) (by decide) (by decide)
  · exact inReach_of_le (by decide) (by decide) (by decide)
  · exact ⟨false, 99, 0, -1, rfl, by decide⟩
  · exact ⟨false, 200, 0, -1, rfl, by decide⟩
  · exact ⟨false, 167, 0, -1, rfl, by decide⟩

theorem positive_prices : ∀ p ∈ prices.entries, 0 < p.2.toRat :=
  forall_prices (toRat_nonnegative 99 (-1) ▸ toRat_pos (by decide) (-1))
    (toRat_nonnegative 200 (-1) ▸ toRat_pos (by decide) (-1))
    (toRat_nonnegative 167 (-1) ▸ toRat_pos (by decide) (-1))

/-- Up from 1913 to 1920, down from there to 1930, and positive long before. -/
theorem valueFor_ordered_prices :
    prices.Tame ∧ ∃ a b c d e, prices.valueFor 1914 = .ok a ∧ prices.valueFor 1918 = .ok b ∧
      prices.valueFor 1922 = .ok c ∧ prices.valueFor 1927 = .ok d ∧ prices.valueFor 1800 = .ok e ∧
      (99 / 10 ≤ a.toRat ∧ a.toRat ≤ b.toRat ∧ b.toRat ≤ 20) ∧
      (167 / 10 ≤ d.toRat ∧ d.toRat ≤ c.toRat ∧ c.toRat ≤ 20) ∧ 0 < e.toRat := by
  have hfirst : (Decimal.finite false 99 (-1)).toRat = 99 / 10 := by
    rw [toRat_nonnegative]
    norm_num
  have hmiddle : (Decimal.finite false 200 (-1)).toRat = 20 := by
    rw [toRat_nonnegative]
    norm_num
  have hlast : (Decimal.finite false 167 (-1)).toRat = 167 / 10 := by
    rw [toRat_nonnegative]
    norm_num
  obtain ⟨hsegment, hwhole⟩ := valueFor_ordered tame_prices
  obtain ⟨a, b, ha, hb, -, -, hup, -⟩ :=
    hsegment (1913, .finite false 99 (-1)) (1920, .finite false 200 (-1)) ⟨[], _, rfl⟩ (by decide)
      1914 1918 (by decide) (by decide) (by decide)
  obtain ⟨c, d, hc, hd, -, -, -, hdown⟩ :=
    hsegment (1920, .finite false 200 (-1)) (1930, .finite false 167 (-1)) ⟨[_], [], rfl⟩
      (by decide) 1922 1927 (by decide) (by decide) (by decide)
  obtain ⟨e, he, -, -, -, hpositive⟩ := (hwhole (by decide) (by decide)).1 1800
  rw [hfirst, hmiddle] at hup
  rw [hmiddle, hlast] at hdown
  exact ⟨tame_prices, a, b, c, d, e, ha, hb, hc, hd, he, hup (by norm_num), hdown (by norm_num),
    hpositive positive_prices⟩

end Table
end DatedMoney.Index
