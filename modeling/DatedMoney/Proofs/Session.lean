import DatedMoney.Proofs.Method.Refusal
import DatedMoney.Proofs.Registry.History
import DatedMoney.Proofs.Value.Record
import DatedMoney.Session

/-!
# What the values of a session tell

However the operations of a session follow one another, every provenance in it was either given, or
it names a method and a source that were there when the value was carried over (`Traced`). A value
that is carried over by an index tells its immediate source, and nothing but an amount that is not
finite stands in the way of that (`faithful_run`).
-/

namespace DatedMoney

/-! ## Registries of methods of one kind -/

namespace Registry
variable {P : Method → Prop}

/-- Whatever is registered has the property. -/
def Every (P : Method → Prop) (r : Registry) : Prop := ∀ name m, r.get? name = some m → P m

theorem Every.register {r : Registry} (hr : r.Every P) (name : String) {m : Method} (hm : P m)
    (description : String) : (r.register name m description).Every P := by
  intro name' m' hm'
  rw [get?_register] at hm'
  split at hm'
  · exact Option.some.inj hm' ▸ hm
  · exact hr name' m' hm'

theorem every_reference (h : ∀ t own, P (.index t own)) : reference.Every P := by
  intro name m hm
  rw [reference, get?_extend] at hm
  obtain ⟨e, he, rfl⟩ := Option.map_eq_some_iff.1 hm
  have he : e ∈ references := List.mem_reverse.1 (List.mem_of_find?_eq_some he)
  simp only [references, List.mem_cons, List.not_mem_nil, or_false] at he
  rcases he with rfl | rfl | rfl <;> exact h _ _

def ByIndex (r : Registry) : Prop :=
  ∀ name m, r.get? name = some m → ∃ t own, m = .index t own

theorem byIndex_reference : reference.ByIndex := every_reference fun t own => ⟨t, own, rfl⟩

end Registry

/-- What an event registers has the property. -/
def Event.Registers (P : Method → Prop) : Event → Prop
  | .register _ m _ => P m
  | .perform .. => True

/-- The registrations of an event are of methods by an index. -/
def Event.ByIndex : Event → Prop
  | .register _ m _ => ∃ t own, m = .index t own
  | .perform .. => True

namespace Session

/-- The registry that a conversion works with. -/
def registryFor (s : Session) (byDefault : Bool) : Registry :=
  if byDefault then s.defaultRegistry else s.registry

/-- The session as an operation finds it. -/
def emptied (s : Session) (into : String) : Session :=
  { s with slots := s.slots.filter (·.name ≠ into), clock := s.clock + 1 }

variable {s : Session} {into of method : String} {target : Checking.LooseDate} {byDefault : Bool}

theorem every_registryFor {P : Method → Prop} (hs : s.registry.Every P)
    (href : Registry.reference.Every P) (byDefault : Bool) :
    (s.registryFor byDefault).Every P := by
  rw [registryFor, defaultRegistry]
  split
  · split
    · exact hs
    · exact href
  · exact hs

theorem byIndex_registryFor (hs : s.registry.ByIndex) (byDefault : Bool) :
    (s.registryFor byDefault).ByIndex :=
  every_registryFor hs Registry.byIndex_reference byDefault

theorem registry_perform (s : Session) (into : String) (operation : Operation) :
    (s.perform into operation).2.registry = s.registry := by
  rw [perform]
  dsimp only
  split <;> rfl

theorem every_step {P : Method → Prop} (hs : s.registry.Every P) {e : Event}
    (he : e.Registers P) : (s.step e).registry.Every P := by
  cases e with
  | perform into operation =>
    rw [step, registry_perform]
    exact hs
  | register name m description => exact hs.register name he description

theorem every_run {P : Method → Prop} {events : List Event} (hs : s.registry.Every P)
    (hevents : ∀ e ∈ events, e.Registers P) : (s.run events).registry.Every P := by
  induction events generalizing s with
  | nil => exact hs
  | cons e events ih =>
    obtain ⟨he, hevents⟩ := List.forall_mem_cons.1 hevents
    exact ih (every_step hs he) hevents

theorem byIndex_run {events : List Event} (hs : s.registry.ByIndex)
    (hevents : ∀ e ∈ events, e.ByIndex) : (s.run events).registry.ByIndex := by
  refine every_run hs fun e he => ?_
  cases e with
  | perform into operation => trivial
  | register name m description => exact hevents _ he

/-! ## One operation -/

theorem slot_eq_ok_iff {src : Slot} :
    s.slot of = .ok src ↔ s.slots.find? (·.name = of) = some src := by
  rw [slot]
  cases s.slots.find? (·.name = of) <;> simp

theorem mem_of_slot {src : Slot} (h : s.slot of = .ok src) : src ∈ s.slots :=
  List.mem_of_find?_eq_some (slot_eq_ok_iff.1 h)

theorem slot_of_emptied {src : Slot} (h : (s.emptied into).slot of = .ok src) :
    s.slot of = .ok src := by
  rw [slot_eq_ok_iff] at h ⊢
  rw [emptied, List.find?_filter] at h
  by_cases hof : of = into
  · subst hof
    have hsrc := List.find?_some h
    simp at hsrc
  · rw [← h]
    congr 1
    funext a
    by_cases ha : a.name = of
    · simp [ha, hof]
    · simp [ha]

/-- An operation adds its result, or nothing. -/
theorem slots_perform {operation : Operation} {slot : Slot}
    (h : slot ∈ (s.perform into operation).2.slots) :
    slot ∈ s.slots ∨ (s.emptied into).result operation = .ok (some (slot.value, slot.origin)) := by
  have hkept {slot : Slot} (h : slot ∈ s.slots.filter (·.name ≠ into)) : slot ∈ s.slots :=
    (List.mem_filter.1 h).1
  rw [perform] at h
  dsimp only at h
  split at h
  · exact .inl (hkept h)
  · exact .inl (hkept h)
  · rename_i hresult
    rcases List.mem_cons.1 h with rfl | h
    · exact .inr hresult
    · exact .inl (hkept h)

/-- What an index makes of a value. -/
theorem transform_eq_ok (hs : s.registry.ByIndex) {w : Value} {origin : Nat}
    (h : s.result (.transform of method target byDefault) = .ok (some (w, origin))) :
    ∃ src t p, s.slot of = .ok src ∧
      (s.registryFor byDefault).get? method = some (.index t p.method) ∧
      w.provenance = some p ∧ p.source = src.value.date ∧ w.currency = src.value.currency ∧
      ∃ parts, target.parts "" = .ok parts ∧ parts.date [] "" = .ok w.date := by
  obtain ⟨src, hsrc, h⟩ := Except.bind_eq_ok_iff.1 h
  obtain ⟨w', hw, h⟩ := Except.bind_eq_ok_iff.1 h
  cases h
  have hw : (s.registryFor byDefault).transform src.value method target = .ok w :=
    Except.mapError_eq_ok_iff.1 hw
  rw [Registry.transform] at hw
  split at hw
  · rename_i m hm
    obtain ⟨t, own, rfl⟩ := byIndex_registryFor hs byDefault _ _ hm
    obtain ⟨_, _, _, _, _, -, -, -, -, -, hcarry⟩ := Method.rescale_eq_ok_iff.1 hw
    obtain ⟨-, hcurrency, hdate, hown, hprovenance⟩ := Method.carryOver_eq_ok_iff.1 hcarry
    exact ⟨src, t, ⟨own, src.value.date, hown⟩, hsrc, hm, hprovenance, rfl, hcurrency, hdate⟩
  · cases hw

theorem transform_invalid (hs : s.registry.ByIndex) {d : Date} {subject : Subject}
    {faults : List Fault}
    (h : s.result (.transform of method d byDefault) = .error (.error (.invalid subject faults))) :
    ∃ src t own, s.slot of = .ok src ∧
      (s.registryFor byDefault).get? method = some (.index t own) ∧
      (own = "" ∨ subject = .value ∧ faults = [⟨["amount"], .notFinite⟩] ∧
        ¬(src.value.amount.isFinite ∧ ∀ p ∈ t.entries, p.2.isFinite)) := by
  obtain h | ⟨src, hsrc, h⟩ := Except.bind_eq_error_iff.1 h
  · rw [slot] at h
    split at h <;> cases h
  obtain h | ⟨w, -, h⟩ := Except.bind_eq_error_iff.1 h
  · have hw : (s.registryFor byDefault).transform src.value method d =
        .error (.invalid subject faults) := by
      obtain ⟨e, he, heq⟩ := Except.mapError_eq_error_iff.1 h
      cases heq
      exact he
    rw [Registry.transform] at hw
    split at hw
    · rename_i m hm
      obtain ⟨t, own, rfl⟩ := byIndex_registryFor hs byDefault _ _ hm
      exact ⟨src, t, own, hsrc, hm, Method.apply_invalid hw⟩
    · cases hw
  · cases h

/-! ## Any number of events -/

/-- Where a provenance comes from: it was given, or a value was carried over whose date it tells, by
a method of its name that was registered at the time. -/
inductive Traced (s : Session) (events : List Event) (p : Provenance) : Prop
  | given {into : String} {given : Json} {v : Value} (h : .perform into (.make given) ∈ events)
      (hv : Checking.ofJson given = .ok v) (hp : v.provenance = some p)
  | carried {before after : List Event} {into of method : String} {target : Checking.LooseDate}
      {byDefault : Bool} {src : Slot} {t : Index.Table}
      (h : events = before ++ .perform into (.transform of method target byDefault) :: after)
      (hsrc : (s.run before).slot of = .ok src)
      (hmethod : ((s.run before).registryFor byDefault).get? method = some (.index t p.method))
      (hdate : src.value.date = p.source)

theorem Traced.concat {events : List Event} {p : Provenance} (h : s.Traced events p) (e : Event) :
    s.Traced (events ++ [e]) p := by
  cases h with
  | given h hv hp => exact .given (List.mem_append_left _ h) hv hp
  | carried h hsrc hmethod hdate =>
    subst h
    exact .carried (List.append_assoc ..) hsrc hmethod hdate

theorem run_concat (s : Session) (events : List Event) (e : Event) :
    s.run (events ++ [e]) = (s.run events).step e :=
  List.foldl_concat ..

/-- What an event adds has a provenance that can be traced if those before it have. -/
theorem traced_step {events : List Event} {e : Event} (hs : (s.run events).registry.ByIndex)
    (ih : ∀ slot ∈ (s.run events).slots, ∀ p, slot.value.provenance = some p → s.Traced events p) :
    ∀ slot ∈ ((s.run events).step e).slots, ∀ p, slot.value.provenance = some p →
      s.Traced (events ++ [e]) p := by
  rintro ⟨name, v, origin⟩ hslot p hp
  dsimp only at hp
  cases e with
  | register name' m description => exact (ih _ hslot p hp).concat _
  | perform into operation =>
    obtain hold | hresult := slots_perform hslot
    · exact (ih _ hold p hp).concat _
    cases operation with
    | make given =>
      obtain ⟨v', hv, hresult⟩ := Except.bind_eq_ok_iff.1 hresult
      cases hresult
      exact .given (List.mem_concat_self ..) (Except.mapError_eq_ok_iff.1 hv) hp
    | withAmount of amount =>
      obtain ⟨src, hsrc, hresult⟩ := Except.bind_eq_ok_iff.1 hresult
      obtain ⟨a, -, hresult⟩ := Except.bind_eq_ok_iff.1 hresult
      cases hresult
      exact (ih src (mem_of_slot (slot_of_emptied hsrc)) p hp).concat _
    | natural of =>
      obtain ⟨src, -, hresult⟩ := Except.bind_eq_ok_iff.1 hresult
      cases hresult
      cases hp
    | calculated of =>
      obtain ⟨src, hsrc, hresult⟩ := Except.bind_eq_ok_iff.1 hresult
      obtain ⟨v', hv', hresult⟩ := Option.map_eq_some_iff.1 (Except.ok.inj hresult)
      cases hresult
      rw [Value.calculated?] at hv'
      split at hv'
      · cases hv'
        exact (ih src (mem_of_slot (slot_of_emptied hsrc)) p hp).concat _
      · cases hv'
    | transform of method target byDefault =>
      obtain ⟨src, t, p', hsrc, hmethod, hp', hdate, -⟩ :=
        transform_eq_ok (s := (s.run events).emptied into) hs hresult
      cases hp.symm.trans hp'
      exact .carried rfl (slot_of_emptied hsrc) hmethod hdate.symm

theorem traced_run {events : List Event} (hs : s.registry.ByIndex) (hslots : s.slots = [])
    (hevents : ∀ e ∈ events, e.ByIndex) :
    ∀ slot ∈ (s.run events).slots, ∀ p, slot.value.provenance = some p → s.Traced events p := by
  induction events using List.reverseRecOn with
  | nil => simp [run, hslots]
  | append_singleton events e ih =>
    have hbefore : ∀ e ∈ events, e.ByIndex := fun e he => hevents e (List.mem_append_left _ he)
    rw [run_concat]
    exact traced_step (byIndex_run hs hbefore) (ih hbefore)

theorem exists_of_slots_step {e : Event} {slot : Slot} (h : slot ∈ (s.step e).slots) :
    slot ∈ s.slots ∨ ∃ into operation, e = .perform into operation ∧
      (s.emptied into).result operation = .ok (some (slot.value, slot.origin)) := by
  cases e with
  | register name m description => exact .inl h
  | perform into operation =>
    exact (slots_perform h).imp_right fun hresult => ⟨into, operation, rfl, hresult⟩

/-- What holds of a session after some events, and of all that may happen in it next. -/
structure Faithful (s : Session) (events : List Event) : Prop where
  wellFormed : ∀ slot ∈ (s.run events).slots, slot.value.WellFormed
  traced : ∀ slot ∈ (s.run events).slots, ∀ p, slot.value.provenance = some p →
    s.Traced events p
  /-- Nothing but the result of an operation is added. -/
  adds : ∀ e, ∀ slot ∈ ((s.run events).step e).slots, slot ∈ (s.run events).slots ∨
    ∃ into operation, e = .perform into operation ∧
      ((s.run events).emptied into).result operation = .ok (some (slot.value, slot.origin))
  /-- A value that is carried over tells the method and the date of its immediate source. -/
  carried : ∀ of method target byDefault w origin,
    (s.run events).result (.transform of method target byDefault) = .ok (some (w, origin)) →
      ∃ src t p, (s.run events).slot of = .ok src ∧
        ((s.run events).registryFor byDefault).get? method = some (.index t p.method) ∧
        w.provenance = some p ∧ p.source = src.value.date ∧ w.currency = src.value.currency ∧
        (∃ parts, target.parts "" = .ok parts ∧ parts.date [] "" = .ok w.date) ∧
        ∀ d : Date, target = d → w.date = d
  /-- For a date that is in order the result is refused for an empty name of the method, or for an
  amount that is not finite. -/
  refused : ∀ of method (d : Date) byDefault subject faults,
    (s.run events).result (.transform of method d byDefault) =
        .error (.error (.invalid subject faults)) →
      ∃ src t own, (s.run events).slot of = .ok src ∧
        ((s.run events).registryFor byDefault).get? method = some (.index t own) ∧
        (own = "" ∨ subject = .value ∧ faults = [⟨["amount"], .notFinite⟩] ∧
          ¬(src.value.amount.isFinite ∧ ∀ p ∈ t.entries, p.2.isFinite))

/-- Sessions with methods by an index stay faithful, whatever happens in them. -/
theorem faithful_run {r : Registry} (hr : r.ByIndex) (ownsDefault : Bool) {events : List Event}
    (hevents : ∀ e ∈ events, e.ByIndex) : (start r ownsDefault).Faithful events := by
  have hs : ((start r ownsDefault).run events).registry.ByIndex := byIndex_run hr hevents
  refine ⟨fun slot _ => slot.value.wellFormed, traced_run hr rfl hevents,
    fun e slot h => exists_of_slots_step h, ?_, fun _ _ _ _ _ _ h => transform_invalid hs h⟩
  intro of method target byDefault w origin h
  obtain ⟨src, t, p, hsrc, hmethod, hp, hdate, hcurrency, parts, hparts, hparts'⟩ :=
    transform_eq_ok hs h
  refine ⟨src, t, p, hsrc, hmethod, hp, hdate, hcurrency, ⟨parts, hparts, hparts'⟩, ?_⟩
  rintro d rfl
  obtain ⟨parts', hd, hd'⟩ := Checking.date_parts_ofDate "" d
  cases hparts.symm.trans hd
  exact Except.ok.inj (hparts'.symm.trans hd')

/-- From 1970 to May 2000 and on to 2010: the last value tells May 2000, not 1970. -/
theorem faithful_run_twice :
    let events : List Event := [.perform "a" (.make (.string "$100@1970")),
      .perform "b" (.transform "a" "CPI" (Date.monthly 2000 ⟨5, by decide, by decide⟩) true),
      .perform "c" (.transform "b" "WAGE" (Date.yearly 2010) false)]
    Registry.reference.ByIndex ∧ (∀ e ∈ events, e.ByIndex) ∧
      (start .reference true).Faithful events ∧
      ((start .reference true).run events).slots.map (·.value.provenance) =
        [some ⟨"WAGE", .monthly 2000 ⟨5, by decide, by decide⟩, by decide⟩,
          some ⟨"CPI", .yearly 1970, by decide⟩, none] := by
  intro events
  have hevents : ∀ e ∈ events, e.ByIndex := by
    simp only [events, List.forall_mem_cons, List.not_mem_nil, false_implies, implies_true,
      and_true]
    exact ⟨trivial, trivial, trivial⟩
  exact ⟨Registry.byIndex_reference, hevents,
    faithful_run Registry.byIndex_reference true hevents, by decide +kernel⟩

/-! A copy with another amount is not checked, so it may be a value that no index carries over. -/

example :
    let events : List Event := [.perform "a" (.make (.string "$100@1970")),
      .perform "b" (.withAmount "a" (.string "NaN"))]
    ((start .reference true).run events).result
        (.transform "b" "CPI" (Date.yearly 2024) false) =
      .error (.error (.invalid .value [⟨["amount"], .notFinite⟩])) := by rfl

end Session
end DatedMoney
