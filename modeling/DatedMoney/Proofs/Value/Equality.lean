import DatedMoney.Proofs.Decimal.Hash
import DatedMoney.Proofs.Outcome
import DatedMoney.Value.Equality

/-!
# Equality of values

Values of finite amounts can always be compared, and then amounts count by what they are worth.
Equal ones have the same hash, so that a set holds only one of them (`countDistinct_of_equal`).
-/

namespace DatedMoney.Value

theorem equal_finite {v w : Value} (hv : v.amount.isFinite) (hw : w.amount.isFinite) :
    equal false v w = .ok true ↔ v.amount.toRat = w.amount.toRat ∧ v.currency = w.currency ∧
      v.date = w.date ∧ v.provenance = w.provenance := by
  rw [equal, if_neg Bool.false_ne_true, Decimal.equal_finite hv hw, Except.ok_bind]
  simp [and_assoc]

theorem equal_self {v : Value} (hv : v.amount.isFinite) : equal false v v = .ok true :=
  (equal_finite hv hv).2 ⟨rfl, rfl, rfl, rfl⟩

theorem equal_trans {u v w : Value} (hu : u.amount.isFinite) (hv : v.amount.isFinite)
    (hw : w.amount.isFinite) (h : equal false u v = .ok true) (h' : equal false v w = .ok true) :
    equal false u w = .ok true := by
  obtain ⟨hamount, hcurrency, hdate, hprovenance⟩ := (equal_finite hu hv).1 h
  obtain ⟨hamount', hcurrency', hdate', hprovenance'⟩ := (equal_finite hv hw).1 h'
  exact (equal_finite hu hw).2 ⟨hamount.trans hamount', hcurrency.trans hcurrency',
    hdate.trans hdate', hprovenance.trans hprovenance'⟩

theorem hash?_congr (h : Hashing) (origin origin' : Nat) {v w : Value} (hv : v.amount.isFinite)
    (hw : w.amount.isFinite) (heq : equal false v w = .ok true) :
    v.hash? h origin = w.hash? h origin' := by
  obtain ⟨hamount, hcurrency, hdate, hprovenance⟩ := (equal_finite hv hw).1 heq
  rw [hash?, hash?, Decimal.hash?_congr hv hw hamount _ (h.ofOrigin origin'), hcurrency, hdate,
    hprovenance]

/-- What is equal without a shared amount is equal with one. -/
theorem equal_shared {v w : Value} (shared : Bool) (heq : equal false v w = .ok true) :
    equal shared v w = .ok true := by
  cases shared with
  | false => exact heq
  | true =>
    obtain ⟨amounts, -, hall⟩ := Except.bind_eq_ok_iff.1 heq
    cases amounts with
    | false => cases hall
    | true => exact hall

/-- Equal values are one member of a set, wherever their amounts come from. -/
theorem countDistinct_of_equal (h : Hashing) (origin origin' : Nat) {v w : Value}
    (hv : v.amount.isFinite) (hw : w.amount.isFinite) (heq : equal false v w = .ok true) :
    countDistinct h origin origin' v w = .ok 1 := by
  obtain ⟨n, hn⟩ := Decimal.exists_hash hw (h.ofOrigin origin')
  have hhash : w.hash? h origin' = some (h.combine n w.currency w.date w.provenance) := by
    rw [hash?, hn]
    rfl
  rw [countDistinct, hash?_congr h origin origin' hv hw heq, hhash]
  simp only [if_true]
  rw [equal_shared _ heq]
  rfl

end DatedMoney.Value
