import DatedMoney.Proofs.Checking.Amount
import DatedMoney.Proofs.Method.Amount
import DatedMoney.Proofs.Notation.Legible
import DatedMoney.Proofs.Session

/-!
# Amounts in a session

A value with another amount is the value that is made of this amount and the other fields, unless
the amount is not finite: then no value can be made of it, but a copy takes it (`copiesAny`). It is
the only way in for such amounts: those of all other values in a session are finite
(`finite_or_copied_run`).
-/

namespace DatedMoney
open Checking

/-! ## Copies and new values -/

namespace Value

/-- The draft of a value with given data for its amount. -/
def draft (v : Value) (given : Json) : Draft where
  amount := given
  currency := .string v.currency.code
  date := v.date
  provenance := v.provenance.map fun p => ⟨.string p.method, p.source⟩

theorem check_draft (v : Value) (given : Json) : (v.draft given).check =
    amountField given >>= fun field =>
      valueOf field (.string v.currency.code) v.date v.provenance := by
  have hprovenance : (v.draft given).provenance.mapM (·.check) = .ok v.provenance := by
    rw [draft]
    cases v.provenance with
    | none => rfl
    | some p =>
      simp only [Option.map_some, Option.mapM_some, LooseProvenance.check_ofDate p.method_ne]
      rfl
  rw [Draft.check, hprovenance, Except.ok_bind]
  rfl

theorem check_draft_number (v : Value) {given : Json} {a : Decimal}
    (h : Checking.amount given = .ok a) :
    (v.draft given).check = value a (.string v.currency.code) v.date v.provenance := by
  rw [check_draft, amountField, h]
  rfl

theorem check_draft_numberless (v : Value) {given : Json}
    (h : Checking.amount given = .error (.signal .invalidOperation)) :
    (v.draft given).check = .error (.signal .invalidOperation) := by
  rw [check_draft, amountField, h]
  rfl

theorem check_draft_long (v : Value) {given : Json}
    (h : Checking.amount given = .error .tooManyDigits) :
    (v.draft given).check = .error (.invalid .value [⟨["amount"], .tooManyDigits⟩]) := by
  rw [check_draft, amountField, h]
  exact valueOf_fault .tooManyDigits v.currency v.date v.provenance

/-- A new value is made of every finite amount. -/
theorem check_draft_eq_ok_iff (v : Value) {given : Json} {w : Value} :
    (v.draft given).check = .ok w ↔
      ∃ a, Checking.amount given = .ok a ∧ a.isFinite ∧ v.withAmount a = w := by
  cases hamount : Checking.amount given with
  | ok a =>
    rw [check_draft_number v hamount]
    by_cases hfinite : a.isFinite
    · simp [value_ofDate hfinite, withAmount, hfinite]
    · simp [value_not_finite hfinite, hfinite]
  | error e =>
    obtain ⟨-, rfl⟩ | ⟨-, -, rfl⟩ := amount_eq_error_iff.1 hamount
    · simp [check_draft_long v hamount]
    · simp [check_draft_numberless v hamount]

end Value

namespace Method

/-- Whatever comes out of the method has a finite amount. -/
def Finite (m : Method) : Prop :=
  ∀ source target w, m.apply source target = .ok w → w.amount.isFinite

theorem finite_index (t : Index.Table) (own : String) : (Method.index t own).Finite := by
  intro source target w h
  obtain ⟨_, _, _, hfinite⟩ := exists_rate_of_apply h
  exact hfinite

end Method

theorem Registry.ByIndex.finite {r : Registry} (hr : r.ByIndex) : r.Every Method.Finite := by
  intro name m hm
  obtain ⟨t, own, rfl⟩ := hr name m hm
  exact Method.finite_index t own

theorem Registry.Every.isFinite_of_transform {r : Registry} (hr : r.Every Method.Finite)
    {v w : Value} {name : String} {target : LooseDate} (h : r.transform v name target = .ok w) :
    w.amount.isFinite := by
  rw [transform] at h
  split at h
  · rename_i m hm
    exact hr name m hm v target w h
  · cases h

namespace Session
variable {s : Session} {of : String} {src : Slot}

/-- A copy is made of any amount that the data show. -/
theorem result_withAmount (h : s.slot of = .ok src) (given : Json) :
    s.result (.withAmount of given) = (Checking.amount given).mapError .error >>= fun a =>
      .ok (some (src.value.withAmount a, s.clock)) := by
  rw [result, h]
  rfl

/-- How a copy with a given amount compares with a new value of this amount. -/
structure CopiesAny (s : Session) (of : String) (src : Slot) (given : Json) : Prop where
  /-- A new value is the copy, if that has a finite amount. -/
  same : ∀ w, (src.value.draft given).check = .ok w ↔
    s.result (.withAmount of given) = .ok (some (w, s.clock)) ∧ w.amount.isFinite
  /-- Other amounts make no new value, but they are copied. -/
  refused : ∀ a, Checking.amount given = .ok a → ¬a.isFinite →
    (src.value.draft given).check = .error (.invalid .value [⟨["amount"], .notFinite⟩]) ∧
      s.result (.withAmount of given) = .ok (some (src.value.withAmount a, s.clock))
  /-- Data that stand for no number make neither. -/
  failed : given.isShort → numberOf? given = none →
    (src.value.draft given).check = .error (.signal .invalidOperation) ∧
      s.result (.withAmount of given) = .error (.error (.signal .invalidOperation))
  /-- Nor do data that cannot be displayed, which are a fault of a new value. -/
  long : ¬given.isShort →
    (src.value.draft given).check = .error (.invalid .value [⟨["amount"], .tooManyDigits⟩]) ∧
      s.result (.withAmount of given) = .error (.error .tooManyDigits)

theorem copiesAny (h : s.slot of = .ok src) (given : Json) : s.CopiesAny of src given where
  same w := by
    rw [src.value.check_draft_eq_ok_iff, result_withAmount h, Except.bind_eq_ok_iff]
    simp only [Except.mapError_eq_ok_iff]
    constructor
    · rintro ⟨a, ha, hfinite, rfl⟩
      exact ⟨⟨a, ha, rfl⟩, hfinite⟩
    · rintro ⟨⟨a, ha, ⟨⟩⟩, hfinite⟩
      exact ⟨a, ha, hfinite, rfl⟩
  refused a ha hfinite := by
    rw [src.value.check_draft_number ha, value_not_finite hfinite, result_withAmount h, ha]
    exact ⟨rfl, rfl⟩
  failed hshort hnumber := by
    have hamount := amount_eq_error_iff.2 (.inr ⟨hshort, hnumber, rfl⟩)
    rw [src.value.check_draft_numberless hamount, result_withAmount h, hamount]
    exact ⟨rfl, rfl⟩
  long hlong := by
    have hamount := amount_eq_error_iff.2 (.inl ⟨hlong, rfl⟩)
    rw [src.value.check_draft_long hamount, result_withAmount h, hamount]
    exact ⟨rfl, rfl⟩

/-! ## All values of a session -/

theorem isFinite_of_ofJson {given : Json} {v : Value} (h : Checking.ofJson given = .ok v) :
    v.amount.isFinite := by
  unfold Checking.ofJson at h
  split at h
  · exact (Notation.legible_of_scan (Except.mapError_eq_ok_iff.1 h)).finite
  · exact (Notation.legible_of_scan (Except.mapError_eq_ok_iff.1 h)).finite
  · exact Draft.isFinite_of_check h

/-- The amount was given for a copy. -/
def Copied (events : List Event) (a : Decimal) : Prop :=
  ∃ into of given, .perform into (.withAmount of given) ∈ events ∧ Checking.amount given = .ok a

theorem Copied.concat {events : List Event} {a : Decimal} (h : Copied events a) (e : Event) :
    Copied (events ++ [e]) a := by
  obtain ⟨into, of, given, h, ha⟩ := h
  exact ⟨into, of, given, List.mem_append_left _ h, ha⟩

/-- What an event adds has a finite amount, one that was given for a copy, or that of a value which
is there already. -/
theorem finite_or_copied_step {events : List Event} {e : Event}
    (hs : (s.run events).registry.Every Method.Finite)
    (ih : ∀ slot ∈ (s.run events).slots,
      slot.value.amount.isFinite ∨ Copied events slot.value.amount) :
    ∀ slot ∈ ((s.run events).step e).slots,
      slot.value.amount.isFinite ∨ Copied (events ++ [e]) slot.value.amount := by
  rintro ⟨name, v, origin⟩ hslot
  have hkept (slot : Slot) (h : slot ∈ (s.run events).slots) :
      slot.value.amount.isFinite ∨ Copied (events ++ [e]) slot.value.amount :=
    (ih slot h).imp_right fun h => h.concat e
  obtain hold | ⟨into, operation, rfl, hresult⟩ := exists_of_slots_step hslot
  · exact hkept _ hold
  cases operation with
  | make given =>
    obtain ⟨v', hv, hresult⟩ := Except.bind_eq_ok_iff.1 hresult
    cases hresult
    exact .inl (isFinite_of_ofJson (Except.mapError_eq_ok_iff.1 hv))
  | withAmount of amount =>
    obtain ⟨src, -, hresult⟩ := Except.bind_eq_ok_iff.1 hresult
    obtain ⟨a, ha, hresult⟩ := Except.bind_eq_ok_iff.1 hresult
    cases hresult
    exact .inr ⟨into, of, amount, List.mem_concat_self .., Except.mapError_eq_ok_iff.1 ha⟩
  | natural of =>
    obtain ⟨src, hsrc, hresult⟩ := Except.bind_eq_ok_iff.1 hresult
    cases hresult
    exact hkept src (mem_of_slot (slot_of_emptied hsrc))
  | calculated of =>
    obtain ⟨src, hsrc, hresult⟩ := Except.bind_eq_ok_iff.1 hresult
    obtain ⟨v', hv', hresult⟩ := Option.map_eq_some_iff.1 (Except.ok.inj hresult)
    cases hresult
    rw [Value.calculated?] at hv'
    split at hv'
    · cases hv'
      exact hkept src (mem_of_slot (slot_of_emptied hsrc))
    · cases hv'
  | transform of method target byDefault =>
    obtain ⟨src, -, hresult⟩ := Except.bind_eq_ok_iff.1 hresult
    obtain ⟨w, hw, hresult⟩ := Except.bind_eq_ok_iff.1 hresult
    cases hresult
    have hfinite := every_registryFor (s := (s.run events).emptied into) hs
      Registry.byIndex_reference.finite byDefault
    exact .inl (hfinite.isFinite_of_transform (Except.mapError_eq_ok_iff.1 hw))

theorem finite_or_copied_run {events : List Event} (hs : s.registry.Every Method.Finite)
    (hslots : s.slots = []) (hevents : ∀ e ∈ events, e.Registers Method.Finite) :
    ∀ slot ∈ (s.run events).slots,
      slot.value.amount.isFinite ∨ Copied events slot.value.amount := by
  induction events using List.reverseRecOn with
  | nil => simp [run, hslots]
  | append_singleton events e ih =>
    have hbefore : ∀ e ∈ events, e.Registers Method.Finite :=
      fun e he => hevents e (List.mem_append_left _ he)
    rw [run_concat]
    exact finite_or_copied_step (every_run hs hbefore) (ih hbefore)

/-- In a session whose methods come to finite amounts, an amount that is not finite was given for a
copy. A copy takes what no new value can be made of; apart from that the two agree. -/
theorem copiesAny_run {r : Registry} (hr : r.Every Method.Finite) (ownsDefault : Bool)
    {events : List Event} (hevents : ∀ e ∈ events, e.Registers Method.Finite) :
    (∀ of src given, ((start r ownsDefault).run events).slot of = .ok src →
        ((start r ownsDefault).run events).CopiesAny of src given) ∧
      ∀ slot ∈ ((start r ownsDefault).run events).slots,
        slot.value.amount.isFinite ∨ Copied events slot.value.amount :=
  ⟨fun _ _ given h => copiesAny h given, finite_or_copied_run hr rfl hevents⟩

/-- The constructors refuse to make a value of what is not a number, and a copy takes it. -/
theorem copiesAny_run_nan :
    let events : List Event := [.perform "a" (.make (.string "$100@1970")),
      .perform "b" (.withAmount "a" (.string "NaN"))]
    let s := (start .reference true).run events
    let v : Value := ⟨.finite false 100 0, .usd, .yearly 1970, none⟩
    Registry.reference.Every Method.Finite ∧ (∀ e ∈ events, e.Registers Method.Finite) ∧
      (v.draft (.string "NaN")).check = .error (.invalid .value [⟨["amount"], .notFinite⟩]) ∧
      s.result (.withAmount "a" (.string "NaN")) =
        .ok (some (v.withAmount (.nan false false 0), s.clock)) ∧
      Copied events (.nan false false 0) := by
  intro events s v
  have hr : Registry.reference.Every Method.Finite := Registry.byIndex_reference.finite
  have hevents : ∀ e ∈ events, e.Registers Method.Finite := by
    simp only [events, List.forall_mem_cons, List.not_mem_nil, false_implies, implies_true,
      and_true]
    exact ⟨trivial, trivial⟩
  obtain ⟨hcopies, hcopied⟩ := copiesAny_run hr true hevents
  have hamount : Checking.amount (.string "NaN") = .ok (.nan false false 0) := by rfl
  obtain ⟨hcheck, hresult⟩ :=
    (hcopies "a" ⟨"a", v, 1⟩ (.string "NaN") (by rfl)).refused _ hamount (by decide)
  have hslot := hcopied ⟨"b", v.withAmount (.nan false false 0), 2⟩ (.head _)
  exact ⟨hr, hevents, hcheck, hresult, hslot.resolve_left (by decide)⟩

end Session
end DatedMoney
