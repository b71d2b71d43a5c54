import DatedMoney.Proofs.Registry
import DatedMoney.Shelf
import Mathlib.Data.List.Induction
import Mathlib.Data.List.Nodup

/-!
# A registry as its history

A registry holds what its registrations tell: each name once, in the order of the first registration
under it, with the method and the description of the last (`methods_extend`,
`descriptions_extend`). So it answers every question as its history does (`answer_extend`).
-/

namespace DatedMoney.Registry

/-! ## What a history tells -/

namespace History

/-- The names in the order in which they occur first. -/
def names (h : List Registration) : List String := (h.map (·.name)).eraseDups

/-- The last registration under a name. -/
def latest? (h : List Registration) (name : String) : Option Registration :=
  h.reverse.find? (·.name = name)

/-- The registrations that count. -/
def current (h : List Registration) : List Registration := (names h).filterMap (latest? h)

def transform (h : List Registration) (source : Value) (name : String)
    (target : Checking.LooseDate) : Except Error Value :=
  match latest? h name with
  | some e => e.method.apply source target
  | none => .error (.domain (.unknownMethod name))

def answer (h : List Registration) : Query → Answer
  | .get name => .method ((latest? h name).map (·.method))
  | .all => .methods ((current h).map fun e => (e.name, e.method))
  | .describe => .descriptions ((current h).map fun e => (e.name, e.description))
  | .size => .size (names h).length
  | .contains name => .contains (h.any (·.name = name))
  | .transform source name target => .carried (transform h source name target)

theorem eraseDups_concat (ns : List String) (n : String) :
    (ns ++ [n]).eraseDups = if n ∈ ns then ns.eraseDups else ns.eraseDups ++ [n] := by
  rw [List.eraseDups_append]
  split
  · rename_i hn
    have hnone : [n].removeAll ns = [] := by simp [List.removeAll, hn]
    rw [hnone, List.eraseDups_nil, List.append_nil]
  · rename_i hn
    have hone : [n].removeAll ns = [n] := by simp [List.removeAll, hn]
    rw [hone]
    simp [List.eraseDups_cons]

theorem mem_names {h : List Registration} {name : String} :
    name ∈ names h ↔ ∃ e ∈ h, e.name = name := by
  rw [names, List.mem_eraseDups, List.mem_map]

/-- A name keeps its place, and a new one comes last. -/
theorem names_concat (h : List Registration) (e : Registration) :
    names (h ++ [e]) = if e.name ∈ names h then names h else names h ++ [e.name] := by
  have hmem : e.name ∈ h.map (·.name) ↔ e.name ∈ names h := List.mem_eraseDups.symm
  rw [names, List.map_append, List.map_singleton, eraseDups_concat]
  simp only [hmem]
  rfl

theorem nodup_names (h : List Registration) : (names h).Nodup := by
  induction h using List.reverseRecOn with
  | nil => exact .nil
  | append_singleton h e ih =>
    rw [names_concat]
    split
    · exact ih
    · rename_i he
      exact List.concat_eq_append ▸ ih.concat he

theorem latest?_concat (h : List Registration) (e : Registration) (name : String) :
    latest? (h ++ [e]) name = if name = e.name then some e else latest? h name := by
  rw [latest?, List.reverse_append, List.reverse_singleton, List.singleton_append,
    List.find?_cons, latest?]
  by_cases hname : name = e.name
  · simp [hname]
  · simp [hname, eq_comm]

theorem latest?_eq_none_iff {h : List Registration} {name : String} :
    latest? h name = none ↔ ∀ e ∈ h, e.name ≠ name := by
  simp [latest?, List.find?_eq_none]

theorem name_of_latest? {h : List Registration} {name : String} {e : Registration}
    (he : latest? h name = some e) : e.name = name := by
  simpa using List.find?_some he

theorem exists_latest? {h : List Registration} {name : String} (hname : name ∈ names h) :
    ∃ e, latest? h name = some e := by
  refine Option.ne_none_iff_exists'.1 fun hnone => ?_
  obtain ⟨e, he, hname⟩ := mem_names.1 hname
  exact latest?_eq_none_iff.1 hnone e he hname

theorem names_current (h : List Registration) : (current h).map (·.name) = names h := by
  rw [current, List.map_filterMap]
  conv_rhs => rw [← List.filterMap_some (l := names h)]
  refine List.filterMap_congr fun name hname => ?_
  obtain ⟨e, he⟩ := exists_latest? hname
  rw [he, Option.map_some, name_of_latest? he]

end History

/-! ## One mapping of a registry -/

/-- The part of every registration that a mapping keeps under its name. -/
def mapping (f : Registration → α) (h : List Registration) : List (String × α) :=
  h.foldl (fun ps e => Dictionary.put e.name (f e) ps) []

variable (f : Registration → α) (h : List Registration)

theorem mapping_concat (e : Registration) :
    mapping f (h ++ [e]) = Dictionary.put e.name (f e) (mapping f h) :=
  List.foldl_concat ..

theorem names_mapping : (mapping f h).map (·.1) = History.names h := by
  induction h using List.reverseRecOn with
  | nil => rfl
  | append_singleton h e ih =>
    rw [mapping_concat, Dictionary.keys_put, ih, History.names_concat]

theorem lookup_mapping (name : String) :
    (mapping f h).lookup name = (History.latest? h name).map f := by
  induction h using List.reverseRecOn with
  | nil => rfl
  | append_singleton h e ih =>
    rw [mapping_concat, Dictionary.lookup_put, ih, History.latest?_concat]
    split <;> rfl

/-- Pairs of different names are found under them. -/
theorem eq_filterMap_lookup {ps : List (String × α)} (hnodup : (ps.map (·.1)).Nodup) :
    ps = (ps.map (·.1)).filterMap fun name => (ps.lookup name).map (name, ·) := by
  induction ps with
  | nil => rfl
  | cons p ps ih =>
    obtain ⟨hp, hps⟩ := List.nodup_cons.1 hnodup
    have hrest : (ps.map (·.1)).filterMap (fun name => ((p :: ps).lookup name).map (name, ·)) =
        (ps.map (·.1)).filterMap fun name => (ps.lookup name).map (name, ·) := by
      refine List.filterMap_congr fun name hname => ?_
      rw [Dictionary.lookup_cons_eq, if_neg]
      rintro rfl
      exact hp hname
    rw [List.map_cons, List.filterMap_cons, hrest, ← ih hps, List.lookup_cons_self]
    rfl

theorem mapping_eq : mapping f h = (History.current h).map fun e => (e.name, f e) := by
  have hnodup : ((mapping f h).map (·.1)).Nodup := names_mapping f h ▸ History.nodup_names h
  rw [eq_filterMap_lookup hnodup, names_mapping, History.current, List.map_filterMap]
  refine List.filterMap_congr fun name _ => ?_
  rw [lookup_mapping]
  cases he : History.latest? h name with
  | none => rfl
  | some e => rw [Option.map_some, Option.map_some, Option.map_some, History.name_of_latest? he]

/-! ## Both mappings -/

theorem extend_eq : empty.extend h = ⟨mapping (·.method) h, mapping (·.description) h⟩ := by
  induction h using List.reverseRecOn with
  | nil => rfl
  | append_singleton h e ih =>
    rw [mapping_concat, mapping_concat, extend, List.foldl_concat, ← extend, ih]
    rfl

theorem names_extend : (empty.extend h).names = History.names h := by
  rw [extend_eq]
  exact names_mapping ..

theorem get?_extend (name : String) :
    (empty.extend h).get? name = (History.latest? h name).map (·.method) := by
  rw [extend_eq]
  exact lookup_mapping ..

theorem methods_extend :
    (empty.extend h).methods = (History.current h).map fun e => (e.name, e.method) := by
  rw [extend_eq]
  exact mapping_eq ..

theorem descriptions_extend :
    (empty.extend h).descriptions = (History.current h).map fun e => (e.name, e.description) := by
  rw [descriptions, names_extend, extend_eq, ← mapping_eq]
  have hnodup : ((mapping (·.description) h).map (·.1)).Nodup :=
    names_mapping (·.description) h ▸ History.nodup_names h
  conv_rhs => rw [eq_filterMap_lookup hnodup, names_mapping]
  rw [← List.filterMap_eq_map]
  refine List.filterMap_congr fun name hname => ?_
  obtain ⟨e, he⟩ := History.exists_latest? hname
  simp [lookup_mapping, he]

theorem size_extend : (empty.extend h).size = (History.names h).length := by
  rw [← names_extend, size, names, List.length_map]

theorem transform_extend (source : Value) (name : String) (target : Checking.LooseDate) :
    (empty.extend h).transform source name target = History.transform h source name target := by
  rw [transform, get?_extend, History.transform]
  cases History.latest? h name <;> rfl

/-- A registry answers as its history does. -/
theorem answer_extend (q : Query) : (empty.extend h).answer q = History.answer h q := by
  cases q with
  | get name => exact congrArg _ (get?_extend h name)
  | all => exact congrArg _ (methods_extend h)
  | describe => exact congrArg _ (descriptions_extend h)
  | size => exact congrArg _ (size_extend h)
  | contains name =>
    have hmem : name ∈ (empty.extend h).names ↔ ∃ e ∈ h, e.name = name := by
      rw [names_extend, History.mem_names]
    have hcontains : (empty.extend h).names.contains name = h.any (·.name = name) := by
      rw [Bool.eq_iff_iff, List.contains_iff_mem, hmem]
      simp
    exact congrArg _ hcontains
  | transform source name target => exact congrArg _ (transform_extend h source name target)

end DatedMoney.Registry
