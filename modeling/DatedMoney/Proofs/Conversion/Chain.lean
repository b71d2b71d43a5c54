import DatedMoney.Conversion
import DatedMoney.Proofs.Conversion.Carried

/-!
# Chains of conversions

Values can be carried over by one step after another, or their notation can be converted step by
step. Both ways lead to the same values, and where one of them fails so does the other
(`convertThrough_refines`): nothing is lost in the notation of the values in between.
-/

namespace DatedMoney.Conversion
open Notation

/-- What a text is converted to is written for what its value is carried over to. -/
theorem convert_eq {text : String} {v : Value} (h : scan text = .ok v) (r : Registry)
    (name : String) (target : Checking.LooseDate) :
    convert r (.string text) name target =
      r.transform v name target >>= write := by
  simp only [convert, ofJson, h]
  rfl

/-- A conversion by a method of a name to a date. -/
structure Step where
  method : String
  target : Date
deriving DecidableEq

/-- The steps by a reference method to a year of four digits. -/
structure Step.Ordinary (s : Step) : Prop where
  method : s.method ∈ Registry.reference.names
  year : 0 ≤ s.target.year ∧ s.target.year ≤ 9999

/-- Carries a value over by each step in turn. -/
def carryThrough (r : Registry) (v : Value) (steps : List Step) : Except Error Value :=
  steps.foldlM (fun v s => r.transform v s.method s.target) v

/-- Converts a text by each step in turn. -/
def convertThrough (r : Registry) (text : String) (steps : List Step) : Except Error String :=
  steps.foldlM (fun t s => convert r (.string t) s.method s.target) text

/-- A text that is read as a value equal to `v`. -/
structure Denotes (text : String) (v : Value) : Prop where
  finite : v.amount.isFinite
  read : ∃ u, scan text = .ok u ∧ Value.equal false u v = .ok true

theorem denotes_of_scan {text : String} {v : Value} (h : scan text = .ok v) : Denotes text v where
  finite := (legible_of_scan h).finite
  read := ⟨v, h, Value.equal_self (legible_of_scan h).finite⟩

/-- A text and the value it denotes take a step together. -/
theorem Denotes.step {text : String} {v : Value} (h : Denotes text v) {s : Step}
    (hs : s.Ordinary) :
    (∃ e, convert .reference (.string text) s.method s.target = .error e ∧
        Registry.reference.transform v s.method s.target = .error e) ∨
      ∃ t w, convert .reference (.string text) s.method s.target = .ok t ∧
        Registry.reference.transform v s.method s.target = .ok w ∧ write w = .ok t ∧
        Denotes t w := by
  obtain ⟨hv, u, hscan, hequal⟩ := h
  have hu := legible_of_scan hscan
  have hcongr := Registry.transform_congr hu.finite hv hequal hs.method s.target
  rw [convert_eq hscan]
  obtain ⟨e, hu', hv'⟩ | ⟨u', w, hu', hw, hufinite, hwfinite, hequal'⟩ := hcongr
  · exact .inl ⟨e, by rw [hu', Except.error_bind], hv'⟩
  · have hlegible := Registry.legible_of_transform hs.method hu hs.year hu'
    have hwritable := Registry.writable_of_transform hs.method hu.finite hu'
    obtain ⟨t, x, ht, hx, hxfinite, hback⟩ := hlegible.reads_back hwritable
    refine .inr ⟨t, w, by rw [hu', Except.ok_bind, ht], hw, ?_, hwfinite, x, hx, ?_⟩
    · rw [← write_congr hufinite hwfinite hequal', ht]
    · exact Value.equal_trans hxfinite hufinite hwfinite hback hequal'

/-- As long as the value is carried over, its notation is converted. -/
theorem Denotes.through {steps : List Step} {text : String} {v w : Value} (h : Denotes text v)
    (hsteps : ∀ s ∈ steps, s.Ordinary) (hw : carryThrough .reference v steps = .ok w) :
    ∃ t, convertThrough .reference text steps = .ok t ∧ Denotes t w ∧
      (steps ≠ [] → write w = .ok t) := by
  -- A text is read as a value that is only equal to `v`, so that is all the induction can keep.
  induction steps generalizing text v with
  | nil =>
    obtain rfl := Except.ok.inj hw
    exact ⟨text, rfl, h, fun hne => absurd rfl hne⟩
  | cons s steps ih =>
    obtain ⟨hs, hsteps⟩ := List.forall_mem_cons.1 hsteps
    obtain ⟨v', hv', hw⟩ := Except.bind_eq_ok_iff.1 hw
    obtain ⟨e, -, herror⟩ | ⟨t, w', ht, hw', hwrite, hdenotes⟩ := h.step hs
    · cases hv'.symm.trans herror
    · cases hv'.symm.trans hw'
      obtain ⟨t', ht', hdenotes', hwrite'⟩ := ih hdenotes hsteps hw
      refine ⟨t', Except.bind_eq_ok_iff.2 ⟨t, ht, ht'⟩, hdenotes', fun _ => ?_⟩
      cases steps with
      | nil =>
        cases hw
        cases ht'
        exact hwrite
      | cons s' steps => exact hwrite' (List.cons_ne_nil s' steps)

/-- After any number of steps, a further one succeeds on the text exactly if it succeeds on the
value, and otherwise both fail alike. The text is the notation of the value, and is read as a value
equal to it. -/
theorem convertThrough_refines {text : String} {v : Value} (hv : scan text = .ok v)
    {steps : List Step} (hsteps : ∀ s ∈ steps, s.Ordinary) {w : Value}
    (hw : carryThrough .reference v steps = .ok w) :
    ∃ t u, convertThrough .reference text steps = .ok t ∧ (steps ≠ [] → write w = .ok t) ∧
      scan t = .ok u ∧ Value.equal false u w = .ok true ∧
      ∀ s : Step, s.Ordinary →
        ((∃ t', convert .reference (.string t) s.method s.target = .ok t') ↔
          ∃ w', Registry.reference.transform w s.method s.target = .ok w') ∧
        (∀ e, Registry.reference.transform w s.method s.target = .error e →
          convert .reference (.string t) s.method s.target = .error e) ∧
        ∀ w', Registry.reference.transform w s.method s.target = .ok w' → ∃ t' u',
          convert .reference (.string t) s.method s.target = .ok t' ∧ write w' = .ok t' ∧
            accepts (.string t') ∧ scan t' = .ok u' ∧ Value.equal false u' w' = .ok true := by
  obtain ⟨t, ht, hdenotes, hwrite⟩ := (denotes_of_scan hv).through hsteps hw
  obtain ⟨u, hu, hequal⟩ := hdenotes.read
  refine ⟨t, u, ht, hwrite, hu, hequal, fun s hs => ?_⟩
  obtain ⟨e, herror, herror'⟩ | ⟨t', w', ht', hw', hwrite', hdenotes'⟩ := hdenotes.step hs
  · simp [herror, herror']
  · obtain ⟨u', hu', hequal'⟩ := hdenotes'.read
    simp only [ht', hw', Except.ok.injEq, exists_eq', true_and, reduceCtorEq, forall_eq',
      IsEmpty.forall_iff, implies_true]
    exact ⟨t', u', rfl, hwrite', accepts_iff.2 ⟨u', hu'⟩, hu', hequal'⟩

theorem convertThrough_refines_prices_then_wages :
    let steps : List Step :=
      [⟨"CPI", .daily 2024 ⟨12, by decide, by decide⟩ ⟨25, by decide, by decide⟩⟩]
    let last : Step := ⟨"WAGE", .yearly 1920⟩
    (∀ s ∈ steps, s.Ordinary) ∧ last.Ordinary ∧ ∃ v w w', scan "$1,000@1970" = .ok v ∧
      carryThrough .reference v steps = .ok w ∧
      Registry.reference.transform w last.method last.target = .ok w' ∧
      convertThrough .reference "$1,000@1970" steps = .ok "$7,997.42@2024-12-25[CPI:1970]" ∧
      convert .reference (.string "$7,997.42@2024-12-25[CPI:1970]") last.method last.target =
        .ok "$166.46@1920[WAGE:2024-12-25]" ∧
      write w' = .ok "$166.46@1920[WAGE:2024-12-25]" := by
  intro steps last
  have hsteps : ∀ s ∈ steps, s.Ordinary := by
    intro s hs
    obtain rfl := List.mem_singleton.1 hs
    exact ⟨by decide +kernel, by decide⟩
  have hlast : last.Ordinary := ⟨by decide +kernel, by decide⟩
  obtain ⟨v, w, w', hv, hw, hw', hwritten, hwritten'⟩ : ∃ v w w', scan "$1,000@1970" = .ok v ∧
      carryThrough .reference v steps = .ok w ∧
      Registry.reference.transform w last.method last.target = .ok w' ∧
      write w = .ok "$7,997.42@2024-12-25[CPI:1970]" ∧
      write w' = .ok "$166.46@1920[WAGE:2024-12-25]" :=
    ⟨⟨.finite false 1000 0, .usd, .yearly 1970, none⟩,
      ⟨.finite false 799742 (-2), .usd, _, some ⟨"CPI", .yearly 1970, by decide⟩⟩,
      ⟨.finite false 16646 (-2), .usd, .yearly 1920, some ⟨"WAGE", _, by decide⟩⟩,
      by rfl, by rfl, by rfl, by rfl, by rfl⟩
  obtain ⟨t, u, ht, hwrite, -, -, hstep⟩ := convertThrough_refines hv hsteps hw
  cases hwritten.symm.trans (hwrite (by simp [steps]))
  obtain ⟨t', u', ht', hwrite', -⟩ := (hstep last hlast).2.2 w' hw'
  cases hwritten'.symm.trans hwrite'
  exact ⟨hsteps, hlast, v, w, w', hv, hw, hw', ht, ht', hwritten'⟩

end DatedMoney.Conversion
