import DatedMoney.Proofs.Method.Amount
import DatedMoney.Proofs.Method.Limit
import DatedMoney.Proofs.Method.Refusal
import DatedMoney.Proofs.Notation.Legible

/-!
# Equal money is carried over alike

What a method by an index makes of a value depends on its currency, its date and the number that its
amount denotes (`Value.SameMoney.apply_alike`), and the new amount on no more than the years
(`Method.apply_alike_of_year`). Neither the digits of the amount nor the provenance matter.
-/

namespace DatedMoney

namespace Value
open Decimal

/-- The same money at the same date. The amounts are equal as numbers; how many digits they have,
the sign of zero and the provenance are left open. -/
structure SameMoney (v w : Value) : Prop where
  finite : v.amount.isFinite
  finite' : w.amount.isFinite
  amount : v.amount.toRat = w.amount.toRat
  currency : w.currency = v.currency
  date : w.date = v.date

/-- Equal values with the same notation, which can only be missing if a year is too long. Their
amounts are printed alike, but for the sign of zero. -/
structure ShownAlike (v w : Value) : Prop where
  equal : equal false v w = .ok true
  written : Notation.write v = Notation.write w
  writable : Notation.ShortYears v → ∃ text, Notation.write v = .ok text
  printed : v.amount.toRat ≠ 0 → v.amount.toText = w.amount.toText

theorem SameMoney.equal {v w : Value} (h : SameMoney v w) (hp : v.provenance = w.provenance) :
    equal false v w = .ok true :=
  (equal_finite h.finite h.finite').2 ⟨h.amount, h.currency.symm, h.date.symm, hp⟩

theorem sameMoney_of_equal {v w : Value} (hv : v.amount.isFinite) (hw : w.amount.isFinite)
    (h : Value.equal false v w = .ok true) : SameMoney v w := by
  obtain ⟨hamount, hcurrency, hdate, -⟩ := (equal_finite hv hw).1 h
  exact ⟨hv, hw, hamount, hcurrency.symm, hdate.symm⟩

end Value

namespace Method
open Decimal

theorem amountAt_congr {a b : Decimal} (ha : a.isFinite) (hb : b.isFinite)
    (h : a.toRat = b.toRat) (t : Index.Table) (source : Int) (target : Json) :
    Except.Alike SameCents (t.amountAt a source target) (t.amountAt b source target) := by
  refine (Except.Alike.of_eq rfl).bind ?_
  rintro r _ rfl
  exact (atRate_congr ha hb h r).mapError _

/-- Results that agree but for the sign of zero are shown alike. -/
theorem shownAlike_of_sameCents {v w : Value} {n : ℤ} (hn : v.amount.IsCents n)
    (hdigits : n.natAbs < 10 ^ 28) (h : SameCents v.amount w.amount)
    (hw : w = v.withAmount w.amount) : Value.ShownAlike v w := by
  have hfinite := hn.isFinite
  have hwfinite : w.amount.isFinite := h.isFinite_eq ▸ hfinite
  have hequal : Value.equal false v w = .ok true := (Value.equal_finite hfinite hwfinite).2
    ⟨h.toRat_eq, (congrArg Value.currency hw).symm, (congrArg Value.date hw).symm,
      (congrArg Value.provenance hw).symm⟩
  have hwritable : Notation.Writable v.amount := .inr (hn.nearestCents_eq.symm ▸ hdigits)
  refine ⟨hequal, Notation.write_congr hfinite hwfinite hequal, fun hyears => ?_, fun hne => ?_⟩
  · exact ⟨_, (Notation.write_eq_ok_iff hfinite).2 ⟨⟨hwritable, hyears⟩, rfl⟩⟩
  · rcases h with h | ⟨-, hzero⟩
    · rw [h]
    · exact absurd (toRat_of_isZero hzero) hne

end Method

/-- The same money is carried over to values that are shown alike, or fails with the same error. -/
theorem Value.SameMoney.apply_alike {v w : Value} (h : SameMoney v w) (t : Index.Table)
    (name : String) (target : Checking.LooseDate) :
    Except.Alike ShownAlike ((Method.index t name).apply v target)
      ((Method.index t name).apply w target) := by
  have hamount := Method.amountAt_congr h.finite h.finite' h.amount t v.date.year target.year
  have hresult := Method.apply_alike (fun _ _ => Decimal.SameCents.isFinite_eq) h.currency h.date
    hamount name
  refine hresult.with_ok.mono ?_
  rintro v' w' ⟨⟨-, hcents, hw'⟩, hv', -⟩
  obtain ⟨n, hn, hdigits⟩ := Method.apply_isCents hv'
  exact Method.shownAlike_of_sameCents hn hdigits hcents hw'

/-- If the zeros have the same sign too there is no difference at all. -/
theorem Value.SameMoney.apply_eq {v w : Value} (h : SameMoney v w)
    (hsign : v.amount.negative = w.amount.negative) (t : Index.Table) (name : String)
    (target : Checking.LooseDate) :
    (Method.index t name).apply v target = (Method.index t name).apply w target := by
  have hamount (r : Decimal) : v.amount.atRate r = w.amount.atRate r :=
    Decimal.atRate_eq_of_negative h.finite h.finite' h.amount hsign r
  simp only [Method.apply_index, Method.carryOver, Index.Table.amountAt, h.currency, h.date,
    hamount]

namespace Method

theorem carryOver_nameless (v : Value) (a : Decimal) (target : Checking.LooseDate) :
    carryOver "" v a target = .error (.invalid .provenance [⟨["method"], .emptyText⟩]) := by
  have hcheck : Checking.LooseProvenance.check ⟨.string "", v.date⟩ =
      .error (.invalid .provenance [⟨["method"], .emptyText⟩]) := by
    rw [Checking.LooseProvenance.check, Checking.LooseDate.parts_ofDate]
    rfl
  rw [carryOver, hcheck, Except.error_bind]

/-- The new amount depends on the years alone, and so does the error if there is none. -/
theorem apply_alike_of_year {v w : Value} (hamount : v.amount = w.amount)
    (hyear : v.date.year = w.date.year) {target target' : Date}
    (htarget : target.year = target'.year) (t : Index.Table) (name : String) :
    Except.Alike (fun v' w' => v'.amount = w'.amount) ((Method.index t name).apply v target)
      ((Method.index t name).apply w target') := by
  have hloose : (Checking.LooseDate.ofDate target).year =
      (Checking.LooseDate.ofDate target').year := congrArg Json.int htarget
  rw [apply_index, apply_index, hamount, hyear, hloose]
  refine (Except.Alike.of_eq rfl).bind ?_
  rintro a _ rfl
  by_cases hname : name = ""
  · rw [hname, carryOver_nameless, carryOver_nameless]
    exact .error _
  by_cases hfinite : a.isFinite
  · rw [carryOver_ofDate hname v hfinite, carryOver_ofDate hname w hfinite]
    exact .ok rfl
  · rw [carryOver, carryOver, Checking.LooseProvenance.check_ofDate hname,
      Checking.LooseProvenance.check_ofDate hname, Except.ok_bind, Except.ok_bind,
      Checking.value_not_finite hfinite, Checking.value_not_finite hfinite]
    exact .error _

/-- Whatever else is given for the targets, the amounts of the results do not differ. -/
theorem amount_eq_of_year {v w : Value} (hamount : v.amount = w.amount)
    (hyear : v.date.year = w.date.year) {target target' : Checking.LooseDate}
    (htarget : target.year = target'.year) {t : Index.Table} {name : String} {v' w' : Value}
    (hv' : (Method.index t name).apply v target = .ok v')
    (hw' : (Method.index t name).apply w target' = .ok w') : v'.amount = w'.amount := by
  obtain ⟨r, hr, hv', -⟩ := exists_rate_of_apply hv'
  obtain ⟨r', hr', hw', -⟩ := exists_rate_of_apply hw'
  rw [← hyear, ← htarget, hr] at hr'
  cases hr'
  rw [← hamount, hv'] at hw'
  exact Except.ok.inj hw'

end Method
end DatedMoney
