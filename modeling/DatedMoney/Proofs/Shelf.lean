import DatedMoney.Proofs.Registry.History

/-!
# Registries in use

No call changes a registry but a registration in this very one (`registry_perform`). Whatever else
is done on the shelf, a registry answers as the registrations in it tell, from the time it was made
(`answer_after`).
-/

namespace DatedMoney.Shelf
open Registry

/-- The registrations in the registry at a place. -/
def registrationsAt (i : Nat) (calls : List Call) : List Registration :=
  calls.filterMap fun
    | .register j e => if j = i then some e else none
    | _ => none

variable {s : Shelf} {i : Nat}

/-! ## One call -/

theorem registry_perform {r : Registry} (h : s.registries[i]? = some r) (c : Call) :
    (s.perform c).2.registries[i]? = some (r.extend (registrationsAt i [c])) := by
  have happend (r' : Registry) : (s.registries ++ [r'])[i]? = some r := by
    rw [List.getElem?_append_left (List.getElem?_eq_some_iff.1 h).1, h]
  cases c with
  | create seeded => exact happend _
  | openDefault =>
    rw [perform]
    split
    · exact h
    · exact happend _
  | register j e =>
    rw [perform]
    by_cases hj : j = i
    · subst hj
      rw [h]
      simp [registrationsAt, extend, List.getElem?_set_self (List.getElem?_eq_some_iff.1 h).1]
    · have hnone : registrationsAt i [.register j e] = [] := by simp [registrationsAt, hj]
      rw [hnone]
      split
      · dsimp only
        rw [List.getElem?_set_ne hj]
        exact h
      · exact h
  | ask j q =>
    rw [perform]
    split
    · cases q <;> exact h
    · exact h
  | edit k change => exact h

theorem default_perform (h : s.default? = some i) (c : Call) :
    (s.perform c).2.default? = some i := by
  cases c with
  | create | edit => exact h
  | openDefault =>
    rw [perform, h]
    exact h
  | register =>
    rw [perform]
    split <;> exact h
  | ask j q =>
    rw [perform]
    split
    · cases q <;> exact h
    · exact h

/-! ## Any number of calls -/

theorem extend_append (r : Registry) (h h' : List Registration) :
    (r.extend h).extend h' = r.extend (h ++ h') :=
  (List.foldl_append ..).symm

theorem registrationsAt_cons (c : Call) (calls : List Call) :
    registrationsAt i (c :: calls) = registrationsAt i [c] ++ registrationsAt i calls :=
  List.filterMap_append (l := [c]) ..

theorem registry_after {r : Registry} (h : s.registries[i]? = some r) (calls : List Call) :
    (s.after calls).registries[i]? = some (r.extend (registrationsAt i calls)) := by
  induction calls generalizing s r with
  | nil => exact h
  | cons c calls ih =>
    rw [registrationsAt_cons, ← extend_append]
    exact ih (registry_perform h c)

theorem default_after (h : s.default? = some i) (calls : List Call) :
    (s.after calls).default? = some i := by
  induction calls generalizing s with
  | nil => exact h
  | cons c calls ih => exact ih (default_perform h c)

/-- The calls that make a registry, and what is registered in it from the start. -/
inductive Opens (s : Shelf) : Call → List Registration → Prop where
  | create : Opens s (.create false) []
  | createSeeded : Opens s (.create true) references
  | openDefault (h : s.default? = none) : Opens s .openDefault references

theorem Opens.perform {c : Call} {seeds : List Registration} (h : Opens s c seeds) :
    (s.perform c).1 = .place s.registries.length ∧
      (s.perform c).2.registries[s.registries.length]? = some (Registry.empty.extend seeds) ∧
      (c = .openDefault → (s.perform c).2.default? = some s.registries.length) := by
  cases h with
  | create => exact ⟨rfl, List.getElem?_concat_length, nofun⟩
  | createSeeded => exact ⟨rfl, List.getElem?_concat_length, nofun⟩
  | openDefault h =>
    rw [Shelf.perform, h]
    exact ⟨rfl, List.getElem?_concat_length, fun _ => rfl⟩

/-- A registry answers as the registrations in it tell, from the time it was made. Every name that
was ever registered stands in it once. The default registry is the same whenever it is asked for. -/
theorem answer_after {opening : Call} {seeds : List Registration} (hopen : Opens s opening seeds)
    (calls : List Call) :
    let place := s.registries.length
    let history := seeds ++ registrationsAt place calls
    let later := (s.perform opening).2.after calls
    (s.perform opening).1 = .place place ∧
    (∀ q, (later.perform (.ask place q)).1 = .answer (History.answer history q)) ∧
    (opening = .openDefault → (later.perform .openDefault).1 = .place place) ∧
    (History.names history).Nodup ∧
    (History.current history).map (·.name) = History.names history ∧
    (∀ name, name ∈ History.names history ↔ ∃ e ∈ history, e.name = name) ∧
    ∀ name, History.latest? history name = none ↔ ∀ e ∈ history, e.name ≠ name := by
  obtain ⟨hplace, hregistry, hdefault⟩ := hopen.perform
  refine ⟨hplace, fun q => ?_, fun h => ?_, History.nodup_names _, History.names_current _,
    fun _ => History.mem_names, fun _ => History.latest?_eq_none_iff⟩
  · have hlater := registry_after hregistry calls
    rw [extend_append] at hlater
    rw [perform, hlater]
    exact congrArg Reply.answer (answer_extend _ q)
  · rw [perform, default_after (hdefault h) calls]

/-- Calls on the default registry, and on another that is made meanwhile. -/
def mixedCalls : List Call :=
  let none : Value := ⟨0, .usd, .yearly 1970, none⟩
  [.create false, .ask 0 .all, .register 1 ⟨"CPI", .fixed none, "Nothing"⟩, .edit 0 fun _ => [],
    .register 0 ⟨"HALF", .scale "HALF" (.finite false 5 (-1)), "Half"⟩,
    .ask 0 (.transform none "NONE" (Date.yearly 2000)),
    .register 0 ⟨"WAGE", .fixed none, "Nothing"⟩, .ask 1 .all, .openDefault]

/-- A replaced method keeps its place, and nothing of the other calls shows. -/
theorem answer_after_mixedCalls :
    Opens Shelf.empty .openDefault references ∧
      (((Shelf.empty.perform .openDefault).2.after mixedCalls).perform (.ask 0 .describe)).1 =
        .answer (.descriptions [("CPI", "Consumer price index (purchasing power)"),
          ("WAGE", "Nothing"), ("GOLD", "Gold price per troy ounce (commodity value)"),
          ("HALF", "Half")]) := by
  have hopen : Opens Shelf.empty .openDefault references := .openDefault rfl
  obtain ⟨-, hanswer, -⟩ := answer_after hopen mixedCalls
  refine ⟨hopen, (hanswer .describe).trans ?_⟩
  exact congrArg (fun ds => Reply.answer (.descriptions ds)) (by decide)

end DatedMoney.Shelf
