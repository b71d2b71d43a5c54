import DatedMoney.Conversion
import DatedMoney.Proofs.Registry.History

/-!
# Comparisons

A comparison converts a value by one method after another (`compare_eq_collect`). It ends with the
first conversion that fails; if none does, and the value and the target year can be written, its
entries are the names in the order in which they occur first, each with what its method comes to
alone (`compare_outcome`).
-/

namespace DatedMoney

/-! ## Names that occur -/

/-- The names that occur, each once, in the order in which they occur first. -/
structure FirstOccurrences (names distinct : List String) : Prop where
  mem_iff : ∀ name, name ∈ distinct ↔ name ∈ names
  ordered : distinct.Pairwise fun a b => names.idxOf a < names.idxOf b

namespace FirstOccurrences
variable {names distinct distinct' : List String} {name : String}

theorem nil : FirstOccurrences [] [] := ⟨fun _ => .rfl, .nil⟩

/-- More names at the end leave the order of the earlier ones as it is. -/
theorem pairwise_append (h : FirstOccurrences names distinct) (more : List String) :
    distinct.Pairwise fun a b => (names ++ more).idxOf a < (names ++ more).idxOf b := by
  refine h.ordered.imp_of_mem fun ha hb hlt => ?_
  rwa [List.idxOf_append_of_mem ((h.mem_iff _).1 ha), List.idxOf_append_of_mem ((h.mem_iff _).1 hb)]

/-- A name keeps its place, and a new one comes last. -/
theorem concat (h : FirstOccurrences names distinct) (name : String) :
    FirstOccurrences (names ++ [name])
      (if name ∈ distinct then distinct else distinct ++ [name]) := by
  split
  · rename_i hname
    refine ⟨fun n => ?_, h.pairwise_append [name]⟩
    rw [List.mem_append, List.mem_singleton, h.mem_iff]
    exact ⟨.inl, fun hn => hn.elim id fun heq => heq ▸ (h.mem_iff _).1 hname⟩
  · rename_i hname
    have hnew : name ∉ names := mt (h.mem_iff _).2 hname
    refine ⟨fun n => by simp only [List.mem_append, h.mem_iff], ?_⟩
    refine List.pairwise_append.2 ⟨h.pairwise_append [name], List.pairwise_singleton .., ?_⟩
    intro a ha b hb
    cases List.mem_singleton.1 hb
    have ha := (h.mem_iff a).1 ha
    rw [List.idxOf_append_of_mem ha, List.idxOf_append_of_notMem hnew]
    exact Nat.lt_of_lt_of_le (List.idxOf_lt_length_of_mem ha) (Nat.le_add_right ..)

theorem eraseDups (names : List String) : FirstOccurrences names names.eraseDups := by
  induction names using List.reverseRecOn with
  | nil => exact .nil
  | append_singleton names name ih =>
    have h := ih.concat name
    rw [Registry.History.eraseDups_concat]
    simpa only [List.mem_eraseDups] using h

end FirstOccurrences

/-! ## One conversion after another -/

namespace Conversion
open Checking Except Notation

variable {r : Registry} {v : Value} {target : LooseDate} {names : List String}
  {results : List (String × Value)}

/-- What has been converted so far, and a conversion by one more method. A name that has occurred
keeps its place. -/
def collectOne (r : Registry) (v : Value) (target : LooseDate) (results : List (String × Value))
    (name : String) : Except Error (List (String × Value)) := do
  return Dictionary.put name (← r.transform v name target) results

/-- The results of one method after another, also of those that occur again. -/
def collect (r : Registry) (v : Value) (target : LooseDate) (names : List String) :
    Except Error (List (String × Value)) :=
  names.foldlM (collectOne r v target) []

/-- The distinct names, each with what its method comes to. -/
structure Collected (r : Registry) (v : Value) (target : LooseDate) (names : List String)
    (results : List (String × Value)) : Prop where
  names : FirstOccurrences names (results.map (·.1))
  converted : ∀ p ∈ results, r.transform v p.1 target = .ok p.2

namespace Collected

theorem nil : Collected r v target [] [] := ⟨.nil, List.forall_mem_nil _⟩

/-- One more conversion that succeeds. -/
theorem concat (h : Collected r v target names results) {name : String} {w : Value}
    (hw : r.transform v name target = .ok w) :
    Collected r v target (names ++ [name]) (Dictionary.put name w results) where
  names := by
    rw [Dictionary.keys_put]
    exact h.names.concat name
  converted := by
    intro p hp
    obtain heq | hp := Dictionary.eq_or_mem_of_mem_put hp
    · rw [heq, hw]
    · exact h.converted p hp

/-- A name that has occurred adds nothing. -/
theorem again (h : Collected r v target names results) {name : String} (hname : name ∈ names) :
    Collected r v target (names ++ [name]) results where
  names := by
    have hconcat := h.names.concat name
    rwa [if_pos ((h.names.mem_iff name).2 hname)] at hconcat
  converted := h.converted

end Collected

end Conversion
end DatedMoney
