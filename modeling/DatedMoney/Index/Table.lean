import DatedMoney.Decimal.Arithmetic
import DatedMoney.Dictionary
import DatedMoney.Error
import DatedMoney.Index.Bisect
/-! Index tables: values of an index for some years, and what they say about all others. -/

namespace DatedMoney.Index

/-- Puts a year in its place among years in ascending order. -/
def putYear (y : Int) : List Int → List Int
  | [] => [y]
  | y' :: ys => if y < y' then y :: y' :: ys else y' :: putYear y ys

theorem mem_putYear : x ∈ putYear y ys ↔ x = y ∨ x ∈ ys := by
  induction ys with
  | nil => simp [putYear]
  | cons y' ys ih =>
    rw [putYear]
    split
    · rw [List.mem_cons]
    · rw [List.mem_cons, ih, List.mem_cons, or_left_comm]

theorem pairwise_putYear (hy : y ∉ ys) (h : ys.Pairwise (· < ·)) :
    (putYear y ys).Pairwise (· < ·) := by
  induction ys with
  | nil => exact List.pairwise_singleton ..
  | cons y' ys ih =>
    obtain ⟨hy', hys⟩ := List.pairwise_cons.1 h
    rw [List.mem_cons, not_or] at hy
    rw [putYear]
    split
    · rename_i hlt
      refine List.pairwise_cons.2 ⟨fun x hx => ?_, h⟩
      rcases List.mem_cons.1 hx with rfl | hx
      · exact hlt
      · exact Int.lt_trans hlt (hy' x hx)
    · rename_i hle
      refine List.pairwise_cons.2 ⟨fun x hx => ?_, ih hy.2 hys⟩
      rcases mem_putYear.1 hx with rfl | hx
      · have := hy.1
        omega
      · exact hy' x hx

/-- The years in ascending order. -/
def ascend (ys : List Int) : List Int := ys.foldr putYear []

theorem mem_ascend : y ∈ ascend ys ↔ y ∈ ys := by
  induction ys with
  | nil => exact Iff.rfl
  | cons y' ys ih => rw [ascend, List.foldr_cons, mem_putYear, List.mem_cons, ← ih, ascend]

theorem pairwise_ascend (h : ys.Nodup) : (ascend ys).Pairwise (· < ·) := by
  induction ys with
  | nil => exact .nil
  | cons y ys ih =>
    obtain ⟨hy, hys⟩ := List.nodup_cons.1 h
    exact pairwise_putYear (mt mem_ascend.1 hy) (ih hys)

/-- A dictionary of values by year, and beside it the years in ascending order. -/
structure Table where
  name : String
  values : List (Int × Decimal)
  years : List Int
  distinct : (values.map (·.1)).Nodup
  sorted : years.Pairwise (· < ·)
  mem_years {y : Int} : y ∈ years ↔ y ∈ values.map (·.1)

namespace Table

def ofValues (name : String) (values : List (Int × Decimal))
    (distinct : (values.map (·.1)).Nodup) : Table where
  name
  values
  years := ascend (values.map (·.1))
  distinct
  sorted := pairwise_ascend distinct
  mem_years := mem_ascend

def empty (name : String) : Table := ofValues name [] .nil

/-- The values of pairs by year. Of several values for one year the last counts. -/
def valuesOf (pairs : List (Int × Decimal)) : List (Int × Decimal) :=
  pairs.foldl (fun values (y, a) => Dictionary.put y a values) []

theorem nodup_valuesOf (pairs : List (Int × Decimal)) : ((valuesOf pairs).map (·.1)).Nodup := by
  suffices h : ∀ values : List (Int × Decimal), (values.map (·.1)).Nodup →
      ((pairs.foldl (fun values (y, a) => Dictionary.put y a values) values).map (·.1)).Nodup from
    h [] .nil
  induction pairs with
  | nil => exact fun _ h => h
  | cons p pairs ih => exact fun values h => ih _ (Dictionary.nodup_keys_put h)

def ofPairs (name : String) (pairs : List (Int × Decimal)) : Table :=
  ofValues name (valuesOf pairs) (nodup_valuesOf pairs)

def contains (t : Table) (y : Int) : Bool := t.values.any (·.1 = y)

/-- The value that the dictionary has for one of the years. -/
def valueOf (t : Table) (y : Int) (h : y ∈ t.years) : Decimal :=
  (t.values.lookup y).get (Dictionary.isSome_lookup_iff.2 (t.mem_years.1 h))

/-- The years with their values. -/
def entries (t : Table) : List (Int × Decimal) :=
  t.years.filterMap fun y => (t.values.lookup y).map (y, ·)

/-- The value on the line from `a₁` to `a₂` after `part` of the `whole` way, each step of the
computation rounded on its own. -/
def interpolate (part whole a₁ a₂ : Decimal) : Except Signal Decimal := do
  let ctx := Decimal.Context.money
  let ratio ← ctx.div part whole
  ctx.add a₁ (← ctx.mul ratio (← ctx.sub a₂ a₁))

/-- The value for a point that is none of the years, of which those `below` it come before it: that
of the only year next to it, or one on the line between both, of which the first lies `since` the
point. -/
def valueAround (t : Table) (ht : t.years ≠ []) (below : Int → Bool) (since : Int → Decimal) :
    Except Error Decimal :=
  let i := bisect below t.years
  have hi : i ≤ t.years.length := bisect_le ..
  if h : 0 < i then
    let y₁ := t.years[i - 1]
    let a₁ := t.valueOf y₁ (List.getElem_mem _)
    if h' : i < t.years.length then
      let y₂ := t.years[i]
      signaled (interpolate (since y₁) (.ofInt (y₂ - y₁)) a₁ (t.valueOf y₂ (List.getElem_mem _)))
    else .ok a₁
  else
    have : i < t.years.length := by
      have := List.length_pos_iff.2 ht
      omega
    .ok (t.valueOf t.years[i] (List.getElem_mem _))

/-- The value for a year: that of its entry, else interpolated between the entries around it, else
that of the entry at the nearer end. -/
def valueFor (t : Table) (y : Int) : Except Error Decimal :=
  match t.values.lookup y with
  | some a => .ok a
  | none =>
    if ht : t.years = [] then .error (.missingData t.name (.int y))
    else t.valueAround ht (· < y) fun y₁ => .ofInt (y - y₁)

end Table
end DatedMoney.Index
