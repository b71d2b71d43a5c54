import DatedMoney.Index.LooseYear
import DatedMoney.Proofs.Index.Bisect
import DatedMoney.Proofs.Outcome
import Mathlib.Data.List.Basic

/-!
# Where a year lies among those of a table

The dictionary of a table and the list of its years make up its entries (`mem_entries_iff`), and the
binary search finds among them what a plain scan finds (`valueFor_eq_scanFor`). Before its first
year a table has the value of that year, and after its last year the value of the last
(`valueFor_before`, `valueFor_after`). Every other year is one of the table or lies between two
neighbours (`exists_segment`), whose values alone decide (`valueFor_entry`, `valueFor_inside`).
-/

namespace DatedMoney

/-- A short year is named in the error, and no other can be. -/
theorem Error.missingData_int (table : String) (y : Int) : Error.missingData table (.int y) =
    if Text.isShort y then .domain (.missingData table (.int y) (Text.ofInt y))
    else .tooManyDigits := by
  rw [missingData, displaying, Json.display?_int]
  split <;> rfl

end DatedMoney

namespace DatedMoney.Index.Table

variable {t : Table} {y : Int} {p : Int × Decimal}

/-! ## Entries -/

theorem mem_entries_iff : p ∈ t.entries ↔ t.values.lookup p.1 = some p.2 := by
  rw [entries, List.mem_filterMap]
  constructor
  · rintro ⟨y, -, h⟩
    obtain ⟨a, ha, rfl⟩ := Option.map_eq_some_iff.1 h
    exact ha
  · intro h
    have hmem := Dictionary.isSome_lookup_iff.1 (Option.isSome_of_eq_some h)
    exact ⟨p.1, t.mem_years.2 hmem, by rw [h]; rfl⟩

theorem map_entries (t : Table) : t.entries.map (·.1) = t.years := by
  have hsome : ∀ y ∈ t.years, ((t.values.lookup y).map (y, ·)).map (·.1) = some y := by
    intro y hy
    obtain ⟨a, ha⟩ := Option.isSome_iff_exists.1
      (Dictionary.isSome_lookup_iff.2 (t.mem_years.1 hy))
    rw [ha]
    rfl
  rw [entries, List.map_filterMap, List.filterMap_congr hsome, List.filterMap_some]

/-- The entries are in the order of their years. -/
theorem ascending (t : Table) : t.entries.Pairwise fun p q => p.1 < q.1 := by
  have h := t.sorted
  rwa [← map_entries, List.pairwise_map] at h

theorem valueOf_eq (hp : p ∈ t.entries) (hy : y = p.1) (h : y ∈ t.years) :
    t.valueOf y h = p.2 := by
  subst hy
  exact Option.get_of_eq_some _ (mem_entries_iff.1 hp)

theorem le_of_head? {es : List (Int × Decimal)} (hsorted : es.Pairwise fun p q => p.1 < q.1)
    (h : es.head? = some p) : ∀ q ∈ es, p.1 ≤ q.1 := by
  intro q hq
  obtain ⟨es', rfl⟩ := List.head?_eq_some_iff.1 h
  rcases List.mem_cons.1 hq with rfl | hq
  · exact Int.le_refl _
  · exact Int.le_of_lt ((List.pairwise_cons.1 hsorted).1 q hq)

theorem le_of_getLast? {es : List (Int × Decimal)} (hsorted : es.Pairwise fun p q => p.1 < q.1)
    (h : es.getLast? = some p) : ∀ q ∈ es, q.1 ≤ p.1 := by
  intro q hq
  obtain ⟨es', rfl⟩ := List.getLast?_eq_some_iff.1 h
  rcases List.mem_append.1 hq with hq | hq
  · exact Int.le_of_lt ((List.pairwise_append.1 hsorted).2.2 q hq p List.mem_cons_self)
  · exact List.mem_singleton.1 hq ▸ Int.le_refl _

/-- Entries in order fall apart into those up to a year and those after it. -/
theorem exists_split {es : List (Int × Decimal)} (h : es.Pairwise fun p q => p.1 < q.1) (y : Int) :
    ∃ l r, es = l ++ r ∧ (∀ p ∈ l, p.1 ≤ y) ∧ ∀ p ∈ r, y < p.1 := by
  induction es with
  | nil => exact ⟨[], [], rfl, nofun, nofun⟩
  | cons e es ih =>
    obtain ⟨he, hes⟩ := List.pairwise_cons.1 h
    rcases Int.lt_or_le y e.1 with hy | hy
    · refine ⟨[], e :: es, rfl, nofun, fun p hp => ?_⟩
      rcases List.mem_cons.1 hp with rfl | hp
      · exact hy
      · exact Int.lt_trans hy (he p hp)
    · obtain ⟨l, r, rfl, hl, hr⟩ := ih hes
      exact ⟨e :: l, r, rfl, List.forall_mem_cons.2 ⟨hy, hl⟩, hr⟩

/-- The lookups around a year find the last entry up to it and the first after it. -/
theorem lookups_eq {l r : List (Int × Decimal)} (h : t.entries = l ++ r) (hl : ∀ p ∈ l, p.1 ≤ y)
    (hr : ∀ p ∈ r, y < p.1) :
    (t.entries.filter (·.1 ≤ y)).getLast? = l.getLast? ∧ t.entries.find? (y < ·.1) = r.head? := by
  constructor
  · rw [h, List.filter_append, List.filter_eq_self.2 fun p hp => by simpa using hl p hp,
      List.filter_eq_nil_iff.2 fun p hp => by simpa using hr p hp, List.append_nil]
  · rw [h, List.find?_append, List.find?_eq_none.2 fun p hp => by simpa using hl p hp]
    cases r with
    | nil => rfl
    | cons q r => simp [hr q List.mem_cons_self]

/-! ## The search -/

/-- The value for a year, found by a plain scan of the entries. -/
def scanFor (t : Table) (y : Int) : Except Error Decimal :=
  match (t.entries.filter (·.1 ≤ y)).getLast?, t.entries.find? (y < ·.1) with
  | none, none => .error (.missingData t.name (.int y))
  | some (_, a), none | none, some (_, a) => .ok a
  | some (y₁, a₁), some (y₂, a₂) =>
    if y₁ = y then .ok a₁ else signaled (interpolate (.ofInt (y - y₁)) (.ofInt (y₂ - y₁)) a₁ a₂)

section
variable {below : Int → Bool} {l r : List (Int × Decimal)} (hlr : t.entries = l ++ r)
  (hl : ∀ p ∈ l, below p.1) (hr : ∀ p ∈ r, ¬below p.1)
include hlr

theorem getElem?_years (i : Nat) : t.years[i]? = ((l ++ r)[i]?).map (·.1) := by
  rw [← map_entries, hlr, List.getElem?_map]

include hl hr

theorem bisect_years : bisect below t.years = l.length := by
  rw [← map_entries, hlr, List.map_append, bisect_append, List.length_map]
  · exact List.forall_mem_map.2 hl
  · exact List.forall_mem_map.2 hr

variable (ht : t.years ≠ []) (since : Int → Decimal)

/-- Before all years there is the value of the first. -/
theorem valueAround_head {q : Int × Decimal} (hnil : l = []) (hq : r.head? = some q) :
    t.valueAround ht below since = .ok q.2 := by
  obtain ⟨r, rfl⟩ := List.head?_eq_some_iff.1 hq
  subst hnil
  have hi := bisect_years hlr hl hr
  have hmem : q ∈ t.entries := by simp [hlr]
  rw [valueAround]
  dsimp only
  rw [dif_neg (by rw [hi]; exact Nat.lt_irrefl 0)]
  refine congrArg _ (valueOf_eq hmem ?_ _)
  rw [List.getElem_eq_iff, hi, getElem?_years hlr]
  rfl

/-- After all years there is the value of the last. -/
theorem valueAround_last (hp : l.getLast? = some p) (hnil : r = []) :
    t.valueAround ht below since = .ok p.2 := by
  obtain ⟨l, rfl⟩ := List.getLast?_eq_some_iff.1 hp
  subst hnil
  have hi := bisect_years hlr hl hr
  have hmem : p ∈ t.entries := by simp [hlr]
  have hlength : t.years.length = (l ++ [p]).length := by
    rw [← map_entries, List.length_map, hlr, List.append_nil]
  rw [valueAround]
  dsimp only
  rw [dif_pos (by simp [hi]), dif_neg (by rw [hi, hlength]; exact Nat.lt_irrefl _)]
  refine congrArg _ (valueOf_eq hmem ?_ _)
  rw [List.getElem_eq_iff, hi, getElem?_years hlr]
  simp

/-- Between two years both count. -/
theorem valueAround_between {q : Int × Decimal} (hp : l.getLast? = some p)
    (hq : r.head? = some q) : t.valueAround ht below since =
      signaled (interpolate (since p.1) (.ofInt (q.1 - p.1)) p.2 q.2) := by
  obtain ⟨l, rfl⟩ := List.getLast?_eq_some_iff.1 hp
  obtain ⟨r, rfl⟩ := List.head?_eq_some_iff.1 hq
  have hi := bisect_years hlr hl hr
  have hmemp : p ∈ t.entries := by simp [hlr]
  have hmemq : q ∈ t.entries := by simp [hlr]
  have hlength : t.years.length = (l ++ [p] ++ q :: r).length := by
    rw [← map_entries, List.length_map, hlr]
  rw [valueAround]
  dsimp only
  have hlast : bisect below t.years - 1 < t.years.length := by simp [hi, hlength]
  have hnext : bisect below t.years < t.years.length := by simp [hi, hlength]
  have hyp : t.years[bisect below t.years - 1] = p.1 := by
    rw [List.getElem_eq_iff, hi, getElem?_years hlr]
    simp
  have hyq : t.years[bisect below t.years] = q.1 := by
    rw [List.getElem_eq_iff, hi, getElem?_years hlr]
    simp
  rw [dif_pos (by simp [hi]), dif_pos hnext, valueOf_eq hmemp hyp, valueOf_eq hmemq hyq, hyp, hyq]

end

/-- The search finds what a scan finds. -/
theorem valueFor_eq_scanFor (t : Table) (y : Int) : t.valueFor y = t.scanFor y := by
  obtain ⟨l, r, hlr, hl, hr⟩ := exists_split t.ascending y
  obtain ⟨hbefore, hafter⟩ := lookups_eq hlr hl hr
  rw [valueFor, scanFor, hbefore, hafter]
  cases hlookup : t.values.lookup y with
  | some a =>
    -- The entry of the year is the last of those up to it.
    have hmem : (y, a) ∈ l := by
      have hmem : (y, a) ∈ t.entries := mem_entries_iff.2 hlookup
      rw [hlr] at hmem
      exact (List.mem_append.1 hmem).resolve_right fun h => Int.lt_irrefl y (hr _ h)
    obtain ⟨p, hp⟩ : ∃ p, l.getLast? = some p :=
      ⟨_, List.getLast?_eq_some_getLast (List.ne_nil_of_mem hmem)⟩
    have hsorted := t.ascending
    rw [hlr] at hsorted
    have hle := le_of_getLast? (List.pairwise_append.1 hsorted).1 hp _ hmem
    have hyear : p.1 = y := Int.le_antisymm (hl p (List.mem_of_getLast? hp)) hle
    have hvalue : p.2 = a := by
      have hp : p ∈ t.entries := hlr ▸ List.mem_append_left r (List.mem_of_getLast? hp)
      rw [mem_entries_iff, hyear, hlookup] at hp
      exact (Option.some.inj hp).symm
    rw [hp, ← hvalue, ← hyear]
    cases r with
    | nil => rfl
    | cons q r => exact (if_pos rfl).symm
  | none =>
    have hne : ∀ p ∈ t.entries, p.1 ≠ y := by
      rintro p hp rfl
      cases hlookup.symm.trans (mem_entries_iff.1 hp)
    have hl' : ∀ p ∈ l, decide (p.1 < y) = true := fun p hp => decide_eq_true
      (Int.lt_iff_le_and_ne.2 ⟨hl p hp, hne p (hlr ▸ List.mem_append_left r hp)⟩)
    have hr' : ∀ p ∈ r, ¬decide (p.1 < y) = true := fun p hp => by
      simpa using Int.le_of_lt (hr p hp)
    dsimp only
    split
    · rename_i hnil
      rw [← map_entries, List.map_eq_nil_iff, hlr, List.append_eq_nil_iff] at hnil
      rw [hnil.1, hnil.2]
      rfl
    · rename_i hyears
      rcases hlast : l.getLast? with _ | p
      · have hnil := List.getLast?_eq_none_iff.1 hlast
        obtain ⟨q, hq⟩ : ∃ q, r.head? = some q := by
          refine Option.isSome_iff_exists.1 (List.isSome_head?.2 ?_)
          rintro rfl
          rw [← map_entries, hlr, hnil] at hyears
          exact hyears rfl
        rw [valueAround_head hlr hl' hr' hyears _ hnil hq, hq]
      · have hp : p ∈ t.entries := hlr ▸ List.mem_append_left r (List.mem_of_getLast? hlast)
        rcases hhead : r.head? with _ | q
        · rw [valueAround_last hlr hl' hr' hyears _ hlast (List.head?_eq_none_iff.1 hhead)]
        · rw [valueAround_between hlr hl' hr' hyears _ hlast hhead]
          exact (if_neg (hne p hp)).symm

/-! ## The places of a year -/

theorem valueFor_nil (h : t.entries = []) :
    t.valueFor y = .error (.missingData t.name (.int y)) := by
  rw [valueFor_eq_scanFor, scanFor, h]
  rfl

theorem entries_ne_nil {a : Decimal} (h : t.valueFor y = .ok a) : t.entries ≠ [] := by
  intro hnil
  cases (valueFor_nil hnil).symm.trans h

theorem valueFor_before (h : t.entries.head? = some p) (hy : y < p.1) : t.valueFor y = .ok p.2 := by
  have hlate : ∀ q ∈ t.entries, y < q.1 :=
    fun q hq => Int.lt_of_lt_of_le hy (le_of_head? t.ascending h q hq)
  obtain ⟨hbefore, hafter⟩ := lookups_eq (List.nil_append _).symm (List.forall_mem_nil _) hlate
  rw [valueFor_eq_scanFor, scanFor, hbefore, hafter, h]
  rfl

theorem valueFor_after (h : t.entries.getLast? = some p) (hy : p.1 ≤ y) :
    t.valueFor y = .ok p.2 := by
  have hearly : ∀ q ∈ t.entries, q.1 ≤ y :=
    fun q hq => Int.le_trans (le_of_getLast? t.ascending h q hq) hy
  obtain ⟨hbefore, hafter⟩ := lookups_eq (List.append_nil _).symm hearly (List.forall_mem_nil _)
  rw [valueFor_eq_scanFor, scanFor, hbefore, hafter, h]
  rfl

theorem valueFor_entry (hp : p ∈ t.entries) : t.valueFor p.1 = .ok p.2 := by
  obtain ⟨l, r, hlr⟩ := List.append_of_mem hp
  have hlr : t.entries = (l ++ [p]) ++ r := by simp [hlr]
  have hsorted := t.ascending
  rw [hlr] at hsorted
  obtain ⟨hlp, -, hpr⟩ := List.pairwise_append.1 hsorted
  obtain ⟨hbefore, hafter⟩ := lookups_eq hlr (le_of_getLast? hlp List.getLast?_concat)
    (hpr p (List.mem_append_right l List.mem_cons_self))
  rw [valueFor_eq_scanFor, scanFor, hbefore, hafter, List.getLast?_concat]
  cases r with
  | nil => rfl
  | cons q r => exact if_pos rfl

/-! ## Neighbours -/

section
variable {q : Int × Decimal} (hpq : [p, q] <:+: t.entries)
include hpq

theorem lt_next : p.1 < q.1 := by
  have hpair := t.ascending.sublist hpq.sublist
  exact (List.pairwise_cons.1 hpair).1 q List.mem_cons_self

/-- Neighbours part the entries. -/
theorem exists_sides : ∃ l r, t.entries = l ++ r ∧ l.getLast? = some p ∧ r.head? = some q ∧
    (∀ e ∈ l, e.1 ≤ p.1) ∧ ∀ e ∈ r, q.1 ≤ e.1 := by
  obtain ⟨l, r, hlr⟩ := hpq
  have hlr : t.entries = (l ++ [p]) ++ q :: r := by simp [← hlr]
  have hsorted := t.ascending
  rw [hlr] at hsorted
  obtain ⟨hlp, hqr, -⟩ := List.pairwise_append.1 hsorted
  exact ⟨l ++ [p], q :: r, hlr, List.getLast?_concat, rfl,
    le_of_getLast? hlp List.getLast?_concat, le_of_head? hqr rfl⟩

/-- There is no entry between two neighbours. -/
theorem le_of_lt_next {e : Int × Decimal} (he : e ∈ t.entries) (h : e.1 < q.1) : e.1 ≤ p.1 := by
  obtain ⟨l, r, hlr, -, -, hl, hr⟩ := exists_sides hpq
  rw [hlr] at he
  rcases List.mem_append.1 he with he | he
  · exact hl e he
  · exact absurd (hr e he) (Int.not_le.2 h)

/-- Between two neighbours nothing but these is looked at. -/
theorem valueFor_inside (hp : p.1 < y) (hq : y < q.1) : t.valueFor y =
    signaled (interpolate (.ofInt (y - p.1)) (.ofInt (q.1 - p.1)) p.2 q.2) := by
  obtain ⟨l, r, hlr, hlast, hhead, hl, hr⟩ := exists_sides hpq
  obtain ⟨hbefore, hafter⟩ := lookups_eq hlr
    (fun e he => Int.le_trans (hl e he) (Int.le_of_lt hp))
    (fun e he => Int.lt_of_lt_of_le hq (hr e he))
  rw [valueFor_eq_scanFor, scanFor, hbefore, hafter, hlast, hhead]
  exact if_neg (Int.ne_of_lt hp)

end

/-- A year comes before all entries, or after the last, or it falls between two neighbours. -/
theorem exists_segment (hne : t.entries ≠ []) (y : Int) :
    (∃ p, t.entries.head? = some p ∧ y < p.1) ∨ (∃ p, t.entries.getLast? = some p ∧ p.1 ≤ y) ∨
      ∃ p q, [p, q] <:+: t.entries ∧ p.1 ≤ y ∧ y < q.1 := by
  obtain ⟨l, r, hlr, hl, hr⟩ := exists_split t.ascending y
  rcases List.eq_nil_or_concat l with rfl | ⟨l, p, rfl⟩
  · obtain ⟨q, r, rfl⟩ := List.exists_cons_of_ne_nil (List.nil_append r ▸ hlr ▸ hne)
    exact .inl ⟨q, by rw [hlr]; rfl, hr q List.mem_cons_self⟩
  rw [List.concat_eq_append] at hlr hl
  have hp := hl p (by simp)
  cases r with
  | nil => exact .inr (.inl ⟨p, by rw [hlr, List.append_nil, List.getLast?_concat], hp⟩)
  | cons q r => exact .inr (.inr ⟨p, q, ⟨l, r, by simp [hlr]⟩, hp, hr q List.mem_cons_self⟩)

/-- The value of a year is that of an entry, or it lies on the line between two neighbours. -/
theorem valueFor_cases (hne : t.entries ≠ []) (y : Int) :
    (∃ p ∈ t.entries, t.valueFor y = .ok p.2) ∨
      ∃ p q, [p, q] <:+: t.entries ∧ p.1 < y ∧ y < q.1 := by
  rcases exists_segment hne y with ⟨p, hp, hy⟩ | ⟨p, hp, hy⟩ | ⟨p, q, hpq, hpy, hyq⟩
  · exact .inl ⟨p, List.mem_of_head? hp, valueFor_before hp hy⟩
  · exact .inl ⟨p, List.mem_of_getLast? hp, valueFor_after hp hy⟩
  · rcases Int.lt_or_eq_of_le hpy with hpy | rfl
    · exact .inr ⟨p, q, hpq, hpy, hyq⟩
    · have hp : p ∈ t.entries := hpq.subset List.mem_cons_self
      exact .inl ⟨p, hp, valueFor_entry hp⟩

/-- A year that is given as a number is looked up as it stands. -/
theorem valueAt_int (t : Table) (y : Int) : t.valueAt (.int y) = t.valueFor y := by
  have hcomparable : ¬(!comparable (.int y)) = true := by simp [comparable]
  rw [valueAt, if_neg hcomparable]
  cases h : t.values.lookup y with
  | some a => simp [Json.whole?, valueFor, h]
  | none =>
    rw [show ((Json.int y).whole?.bind fun y => t.values.lookup y) = none from h]
    dsimp only
    split
    · rename_i ht
      rw [valueFor, h]
      dsimp only
      rw [dif_pos ht]
    · rfl

end DatedMoney.Index.Table
