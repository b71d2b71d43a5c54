import DatedMoney.Proofs.Index.Interpolation
import DatedMoney.Proofs.Method.Rescale

/-!
# What an index refuses

A method by an index checks the value that it makes. For a date that is in order that check finds
fault with nothing but the name of the method, if it is empty, and the amount, if it is not finite
(`apply_invalid`); and the amount is finite if the source and the table are.
-/

namespace DatedMoney

/-- The value for a year is missing, or the interpolation has no result. -/
theorem Index.Table.valueFor_ne_invalid (t : Table) (y : Int) (subject : Subject)
    (faults : List Fault) : t.valueFor y ≠ .error (.invalid subject faults) := by
  intro h
  by_cases hne : t.entries = []
  · rw [valueFor_nil hne, Error.missingData_int] at h
    split at h <;> cases h
  rcases valueFor_cases hne y with ⟨p, -, hvalue⟩ | ⟨p, q, hpq, hp, hq⟩
  · cases hvalue.symm.trans h
  · rw [valueFor_inside hpq hp hq] at h
    obtain ⟨_, _, hsignal⟩ := Except.mapError_eq_error_iff.1 h
    cases hsignal

namespace Method
open Decimal

theorem signaled_ne_invalid {r : Except Signal α} {subject : Subject} {faults : List Fault} :
    signaled r ≠ .error (.invalid subject faults) := by
  cases r <;> nofun

theorem carryOver_invalid {name : String} {v : Value} {amount : Decimal} {target : Date}
    {subject : Subject} {faults : List Fault}
    (h : carryOver name v amount target = .error (.invalid subject faults)) :
    name = "" ∨ ¬amount.isFinite ∧ subject = .value ∧ faults = [⟨["amount"], .notFinite⟩] := by
  by_cases hname : name = ""
  · exact .inl hname
  rw [carryOver, Checking.LooseProvenance.check_ofDate hname, Except.ok_bind] at h
  by_cases hfinite : amount.isFinite
  · rw [Checking.value_ofDate hfinite] at h
    cases h
  · rw [Checking.value_not_finite hfinite] at h
    cases h
    exact .inr ⟨hfinite, rfl, rfl⟩

theorem rescale_invalid {t : Index.Table} {name : String} {v : Value} {target : Date}
    {subject : Subject} {faults : List Fault}
    (h : rescale t v target name = .error (.invalid subject faults)) :
    ∃ a b rate scaled cents, t.valueFor v.date.year = .ok a ∧ t.valueFor target.year = .ok b ∧
      Context.money.div b a = .ok rate ∧ Context.money.mul v.amount rate = .ok scaled ∧
      scaled.toCents = .ok cents ∧
      carryOver name v cents target = .error (.invalid subject faults) := by
  obtain h | ⟨a, ha, h⟩ := Except.bind_eq_error_iff.1 h
  · exact absurd h (t.valueFor_ne_invalid _ _ _)
  obtain h | ⟨b, hb, h⟩ := Except.bind_eq_error_iff.1 h
  · exact absurd ((t.valueAt_int target.year).symm.trans h) (t.valueFor_ne_invalid _ _ _)
  obtain h | ⟨rate, hrate, h⟩ := Except.bind_eq_error_iff.1 h
  · exact absurd h signaled_ne_invalid
  obtain h | ⟨scaled, hscaled, h⟩ := Except.bind_eq_error_iff.1 h
  · exact absurd h signaled_ne_invalid
  obtain h | ⟨cents, hcents, h⟩ := Except.bind_eq_error_iff.1 h
  · exact absurd h signaled_ne_invalid
  exact ⟨a, b, rate, scaled, cents, ha, (t.valueAt_int target.year).symm.trans hb,
    Except.mapError_eq_ok_iff.1 hrate, Except.mapError_eq_ok_iff.1 hscaled,
    Except.mapError_eq_ok_iff.1 hcents, h⟩

/-- A conversion to a date that is in order is refused for an empty name, or for an amount that is
not finite. The latter takes a source or a table that is not. -/
theorem apply_invalid {t : Index.Table} {name : String} {v : Value} {target : Date}
    {subject : Subject} {faults : List Fault}
    (h : (Method.index t name).apply v target = .error (.invalid subject faults)) :
    name = "" ∨ subject = .value ∧ faults = [⟨["amount"], .notFinite⟩] ∧
      ¬(v.amount.isFinite ∧ ∀ p ∈ t.entries, p.2.isFinite) := by
  obtain ⟨a, b, rate, scaled, cents, ha, hb, hrate, hscaled, hcents, h⟩ := rescale_invalid h
  rcases carryOver_invalid h with hname | ⟨hcentsfinite, hsubject, hfaults⟩
  · exact .inl hname
  refine .inr ⟨hsubject, hfaults, fun ⟨hv, ht⟩ => hcentsfinite ?_⟩
  have hrate := Context.isFinite_of_div Context.money_proper
    (Index.Table.isFinite_of_valueFor ht hb) (Index.Table.isFinite_of_valueFor ht ha) hrate
  obtain ⟨hscaled, -⟩ := (Context.mul_outcome Context.money_proper hv hrate).of_ok hscaled
  exact isFinite_of_toCents hscaled hcents

end Method
end DatedMoney
