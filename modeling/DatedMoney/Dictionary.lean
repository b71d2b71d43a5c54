/-! Dictionaries: values under keys, in the order in which the keys came. -/

namespace DatedMoney.Dictionary

variable [DecidableEq κ] {k k' : κ} {a : α} {ps : List (κ × α)}

/-- Puts a value under a key: in the place of the one that stands there, or at the end. -/
def put (k : κ) (a : α) : List (κ × α) → List (κ × α)
  | [] => [(k, a)]
  | (k', a') :: ps => if k' = k then (k, a) :: ps else (k', a') :: put k a ps

/-- A key keeps its place, and a new one comes last. -/
theorem keys_put (k : κ) (a : α) (ps : List (κ × α)) :
    (put k a ps).map (·.1) =
      if k ∈ ps.map (·.1) then ps.map (·.1) else ps.map (·.1) ++ [k] := by
  induction ps with
  | nil => simp [put]
  | cons p ps ih =>
    simp only [put]
    split
    · simp_all
    · simp [ih]
      split <;> simp_all [eq_comm]

theorem eq_or_mem_of_mem_put {p : κ × α} (h : p ∈ put k a ps) : p = (k, a) ∨ p ∈ ps := by
  induction ps with
  | nil => exact .inl (List.mem_singleton.1 h)
  | cons q ps ih =>
    simp only [put] at h
    split at h
    · exact (List.mem_cons.1 h).imp_right (List.mem_cons_of_mem q)
    · obtain rfl | h := List.mem_cons.1 h
      · exact .inr (.head _)
      · exact (ih h).imp_right (List.mem_cons_of_mem q)

theorem nodup_keys_put (h : (ps.map (·.1)).Nodup) : ((put k a ps).map (·.1)).Nodup := by
  rw [keys_put]
  split
  · exact h
  · rename_i hk
    exact List.nodup_append.2 ⟨h, List.pairwise_singleton .., fun x hx y hy heq =>
      hk (List.mem_singleton.1 hy ▸ heq ▸ hx)⟩

theorem lookup_cons_eq (k : κ) (p : κ × α) (ps : List (κ × α)) :
    (p :: ps).lookup k = if k = p.1 then some p.2 else ps.lookup k := by
  by_cases h : k = p.1
  · rw [if_pos h, h, List.lookup_cons_self]
  · rw [if_neg h, List.lookup_cons, beq_false_of_ne h]

theorem lookup_put (k k' : κ) (a : α) (ps : List (κ × α)) :
    (put k a ps).lookup k' = if k' = k then some a else ps.lookup k' := by
  induction ps with
  | nil => exact lookup_cons_eq ..
  | cons p ps ih =>
    simp only [put]
    split
    · rename_i hp
      rw [lookup_cons_eq, lookup_cons_eq, hp]
      split <;> rfl
    · rename_i hp
      rw [lookup_cons_eq, lookup_cons_eq, ih]
      by_cases h : k' = p.1
      · rw [if_pos h, if_neg fun h' => hp (h.symm.trans h'), if_pos h]
      · rw [if_neg h, if_neg h]

theorem isSome_lookup_iff : (ps.lookup k).isSome ↔ k ∈ ps.map (·.1) := by
  induction ps with
  | nil => simp
  | cons p ps ih =>
    rw [lookup_cons_eq, List.map_cons, List.mem_cons, ← ih]
    split <;> simp_all

end DatedMoney.Dictionary
