import DatedMoney.Proofs.Method.Rescale

/-!
# The amount that a value comes to

A method by an index finds the new amount first, from the old amount and the two years, and then
makes a value of it (`apply_index`). So values that agree in their currency and their date come to
values that agree in all but the amount (`apply_alike`).
-/

namespace DatedMoney

namespace Checking

/-- A check of a value looks at the amount only to see whether it is finite. -/
theorem value_alike {a b : Decimal} (h : a.isFinite = b.isFinite) (cur : Json) (date : LooseDate)
    (p : Option Provenance) :
    Except.Alike (fun v w => a.isFinite ∧ v.amount = a ∧ w = v.withAmount b)
      (value a cur date p) (value b cur date p) := by
  rw [value, value]
  refine Except.Alike.mapError ?_ _
  generalize Checked.field ["currency"] (currency cur) = currency?
  by_cases ha : a.isFinite
  · have hfield : ∀ d : Decimal, d.isFinite → Checked.field ["amount"] (finite d) = .ok d :=
      fun d hd => Checked.field_eq_ok_iff.2 (finite_eq_ok_iff.2 ⟨hd, rfl⟩)
    rw [hfield a ha, hfield b (h ▸ ha)]
    rcases currency? with faults | c <;> rcases date.parts "" with faults' | parts
    all_goals try exact .error _
    change Except.Alike _ (parts.date [] "" >>= _) (parts.date [] "" >>= _)
    refine (Except.Alike.of_eq rfl).bind ?_
    rintro x _ rfl
    exact .ok ⟨ha, rfl, rfl⟩
  · have hfield : ∀ d : Decimal, ¬d.isFinite →
        Checked.field ["amount"] (finite d) = .error [⟨["amount"], .notFinite⟩] := by
      intro d hd
      rw [finite, if_neg hd]
      rfl
    rw [hfield a ha, hfield b (h ▸ ha)]
    rcases currency? with faults | c <;> rcases date.parts "" with faults' | parts
    all_goals exact .error _

end Checking

/-- The amount for another year. -/
def Index.Table.amountAt (t : Table) (amount : Decimal) (source : Int) (target : Json) :
    Except Error Decimal := do
  let rate ← t.rateAt (.int source) target
  signaled (amount.atRate rate)

theorem Index.Table.rateAt_int (t : Table) {y y' : Int} {a b : Decimal} (ha : t.valueFor y = .ok a)
    (hb : t.valueFor y' = .ok b) :
    t.rateAt (.int y) (.int y') = signaled (Decimal.Context.money.div b a) := by
  rw [rateAt, t.valueAt_int, t.valueAt_int, ha, hb]
  rfl

namespace Method
open Decimal

theorem apply_index (t : Index.Table) (name : String) (v : Value) (target : Checking.LooseDate) :
    (Method.index t name).apply v target =
      t.amountAt v.amount v.date.year target.year >>= fun a => carryOver name v a target := by
  have hsource : t.valueAt (.int v.date.year) = t.valueFor v.date.year := t.valueAt_int _
  simp only [apply, rescale, Index.Table.amountAt, Index.Table.rateAt, atRate, signaled_bind,
    bind_assoc, hsource]

theorem carryOver_alike {v w : Value} (hcurrency : w.currency = v.currency)
    (hdate : w.date = v.date) {a b : Decimal} (h : a.isFinite = b.isFinite) (name : String)
    (target : Checking.LooseDate) :
    Except.Alike (fun v' w' => a.isFinite ∧ v'.amount = a ∧ w' = v'.withAmount b)
      (carryOver name v a target) (carryOver name w b target) := by
  rw [carryOver, carryOver, hcurrency, hdate]
  exact ((Except.Alike.of_eq rfl).bind fun _ _ hp => hp ▸ Checking.value_alike h _ _ _)

theorem apply_alike {R : Decimal → Decimal → Prop} (hR : ∀ a b, R a b → a.isFinite = b.isFinite)
    {t : Index.Table} {v w : Value} (hcurrency : w.currency = v.currency) (hdate : w.date = v.date)
    {target : Checking.LooseDate}
    (h : Except.Alike R (t.amountAt v.amount v.date.year target.year)
      (t.amountAt w.amount v.date.year target.year)) (name : String) :
    Except.Alike (fun v' w' => v'.amount.isFinite ∧ R v'.amount w'.amount ∧
        w' = v'.withAmount w'.amount)
      ((Method.index t name).apply v target) ((Method.index t name).apply w target) := by
  rw [apply_index, apply_index, hdate]
  refine h.bind fun a b hab => (carryOver_alike hcurrency hdate (hR a b hab) name target).mono ?_
  rintro v' _ ⟨hfinite, rfl, rfl⟩
  exact ⟨hfinite, hab, rfl⟩

/-- What comes out is the amount at the rate between the two years. -/
theorem exists_rate_of_apply {t : Index.Table} {name : String} {v w : Value}
    {target : Checking.LooseDate} (h : (Method.index t name).apply v target = .ok w) :
    ∃ r, t.rateAt (.int v.date.year) target.year = .ok r ∧ v.amount.atRate r = .ok w.amount ∧
      w.amount.isFinite := by
  rw [apply_index, Except.bind_eq_ok_iff] at h
  obtain ⟨a, ha, hcarry⟩ := h
  obtain ⟨⟨hfinite, hamount⟩, -⟩ := carryOver_eq_ok_iff.1 hcarry
  obtain ⟨r, hr, ha⟩ := Except.bind_eq_ok_iff.1 ha
  exact ⟨r, hr, hamount ▸ Except.mapError_eq_ok_iff.1 ha, hamount ▸ hfinite⟩

/-! ## At a known rate -/

section
variable {t : Index.Table} {name : String} {v w : Value} {target : Date} {r : Decimal}
  (h : t.rateAt (.int v.date.year) (.int target.year) = .ok r)
include h

theorem apply_of_rate : (Method.index t name).apply v target =
    signaled (v.amount.atRate r) >>= fun a => carryOver name v a target := by
  have hyear : (Checking.LooseDate.ofDate target).year = .int target.year := rfl
  rw [apply_index, Index.Table.amountAt, hyear, h]
  rfl

theorem apply_eq_ok_iff_of_rate : (Method.index t name).apply v target = .ok w ↔
    ∃ a, v.amount.atRate r = .ok a ∧ a.isFinite ∧
      ∃ hname : name ≠ "", w = ⟨a, v.currency, target, some ⟨name, v.date, hname⟩⟩ := by
  simp only [apply_of_rate h, Except.bind_eq_ok_iff, signaled, Except.mapError_eq_ok_iff,
    carryOver_eq_ok_iff]
  obtain ⟨parts, hparts, hdate⟩ := Checking.date_parts_ofDate "" target
  constructor
  · rintro ⟨a, ha, ⟨hfinite, hamount⟩, hcurrency, ⟨parts', hparts', hdate'⟩, hname, hprovenance⟩
    cases hparts.symm.trans hparts'
    have hw : w.date = target := Except.ok.inj (hdate'.symm.trans hdate)
    refine ⟨a, ha, hfinite, hname, ?_⟩
    rw [← hamount, ← hcurrency, ← hw, ← hprovenance]
  · rintro ⟨a, ha, hfinite, hname, rfl⟩
    exact ⟨a, ha, ⟨hfinite, rfl⟩, rfl, ⟨parts, hparts, hdate⟩, hname, rfl⟩

end

end Method
end DatedMoney
