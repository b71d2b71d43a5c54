/-!
# Steps of a computation that may fail

A sequence of steps succeeds if and only if each step does, and it fails as the first step that
does not (`bind_eq_error_iff`, `FirstFailure`). Two sequences whose steps correspond (`Alike`) fail
alike, or both succeed.
-/

namespace Except

@[simp] theorem ok_bind (a : α) (f : α → Except ε β) : (Except.ok a >>= f) = f a := rfl

@[simp] theorem error_bind (e : ε) (f : α → Except ε β) :
    ((Except.error e : Except ε α) >>= f) = .error e := rfl

@[simp] theorem pure_eq_ok (a : α) : (pure a : Except ε α) = .ok a := rfl

theorem error_or_ok (x : Except ε α) : (∃ e, x = .error e) ∨ ∃ a, x = .ok a := by
  cases x with
  | error e => exact .inl ⟨e, rfl⟩
  | ok a => exact .inr ⟨a, rfl⟩

theorem bind_eq_ok_iff {x : Except ε α} {f : α → Except ε β} {b : β} :
    (x >>= f) = .ok b ↔ ∃ a, x = .ok a ∧ f a = .ok b := by
  cases x <;> simp

theorem bind_eq_error_iff {x : Except ε α} {f : α → Except ε β} {e : ε} :
    (x >>= f) = .error e ↔ x = .error e ∨ ∃ a, x = .ok a ∧ f a = .error e := by
  cases x <;> simp

theorem mapError_eq_ok_iff {x : Except ε α} {f : ε → ε'} {a : α} :
    x.mapError f = .ok a ↔ x = .ok a := by
  cases x with
  | error e => exact iff_of_false (fun h => by cases h) (fun h => by cases h)
  | ok b => exact ⟨fun h => by cases h; rfl, fun h => by cases h; rfl⟩

theorem mapError_eq_error_iff {x : Except ε α} {f : ε → ε'} {e : ε'} :
    x.mapError f = .error e ↔ ∃ e', x = .error e' ∧ f e' = e := by
  cases x with
  | error e' =>
    refine ⟨fun h => ⟨e', rfl, Except.error.inj h⟩, ?_⟩
    rintro ⟨_, h, rfl⟩
    cases h
    rfl
  | ok a => exact iff_of_false (fun h => by cases h) (fun ⟨_, h, _⟩ => by cases h)

theorem map_eq_ok_iff {x : Except ε α} {f : α → β} {b : β} :
    x.map f = .ok b ↔ ∃ a, x = .ok a ∧ f a = b := by
  cases x <;> simp [Except.map]

theorem toOption_eq_some_iff {x : Except ε α} {a : α} : x.toOption = some a ↔ x = .ok a := by
  cases x <;> simp [Except.toOption]

/-! ## The same step for each entry of a list -/

/-- The step for one entry of a list fails, and those for the entries before it do not. -/
def FirstFailure (f : α → Except ε β) (l : List α) (e : ε) : Prop :=
  ∃ before a after, l = before ++ a :: after ∧ (∀ x ∈ before, ∃ b, f x = .ok b) ∧ f a = .error e

namespace FirstFailure
variable {f : α → Except ε β} {l : List α} {e : ε}

theorem not_nil : ¬FirstFailure f [] e := by
  rintro ⟨before, a, after, h, -⟩
  exact List.append_ne_nil_of_right_ne_nil before (List.cons_ne_nil a after) h.symm

theorem cons_iff {a : α} :
    FirstFailure f (a :: l) e ↔ f a = .error e ∨ (∃ b, f a = .ok b) ∧ FirstFailure f l e := by
  constructor
  · rintro ⟨before, failing, after, hl, hbefore, hfails⟩
    cases before with
    | nil =>
      cases hl
      exact .inl hfails
    | cons _ before =>
      cases hl
      obtain ⟨hb, hbefore⟩ := List.forall_mem_cons.1 hbefore
      exact .inr ⟨hb, before, failing, after, rfl, hbefore, hfails⟩
  · rintro (hfails | ⟨hb, before, failing, after, rfl, hbefore, hfails⟩)
    · exact ⟨[], a, l, rfl, fun _ h => absurd h List.not_mem_nil, hfails⟩
    · exact ⟨a :: before, failing, after, rfl, List.forall_mem_cons.2 ⟨hb, hbefore⟩, hfails⟩

/-- A list with a first failure has an entry whose step does not succeed. -/
theorem not_forall (h : FirstFailure f l e) : ¬∀ a ∈ l, ∃ b, f a = .ok b := by
  obtain ⟨before, a, after, rfl, -, hfails⟩ := h
  intro hall
  obtain ⟨b, hb⟩ := hall a (List.mem_append_right before List.mem_cons_self)
  cases hfails.symm.trans hb

end FirstFailure

theorem mapM_eq_error_iff {f : α → Except ε β} {l : List α} {e : ε} :
    l.mapM f = .error e ↔ FirstFailure f l e := by
  induction l with
  | nil => exact iff_of_false (fun h => by cases h) FirstFailure.not_nil
  | cons a l ih =>
    rw [List.mapM_cons, FirstFailure.cons_iff, ← ih, bind_eq_error_iff]
    refine or_congr_right ⟨?_, ?_⟩
    · rintro ⟨b, hb, h⟩
      obtain h | ⟨bs, -, h⟩ := bind_eq_error_iff.1 h
      · exact ⟨⟨b, hb⟩, h⟩
      · cases h
    · rintro ⟨⟨b, hb⟩, h⟩
      exact ⟨b, hb, bind_eq_error_iff.2 (.inl h)⟩

/-! ## Two computations -/

/-- Both fail, and with the same error, or both succeed and their results are related. -/
inductive Alike (R : α → β → Prop) : Except ε α → Except ε β → Prop where
  | error (e : ε) : Alike R (.error e) (.error e)
  | ok (h : R a b) : Alike R (.ok a) (.ok b)

namespace Alike
variable {R : α → β → Prop} {x : Except ε α} {y : Except ε β}

theorem of_eq {x y : Except ε α} (h : x = y) : Alike Eq x y := by
  subst h
  cases x with
  | error e => exact .error e
  | ok a => exact .ok rfl

theorem mono {S : α → β → Prop} (h : Alike R x y) (hRS : ∀ a b, R a b → S a b) : Alike S x y := by
  cases h with
  | error e => exact .error e
  | ok h => exact .ok (hRS _ _ h)

/-- The related results are those that the two come to. -/
theorem with_ok (h : Alike R x y) : Alike (fun a b => R a b ∧ x = .ok a ∧ y = .ok b) x y := by
  cases h with
  | error e => exact .error e
  | ok h => exact .ok ⟨h, rfl, rfl⟩

theorem bind {S : γ → δ → Prop} {f : α → Except ε γ} {g : β → Except ε δ} (h : Alike R x y)
    (hfg : ∀ a b, R a b → Alike S (f a) (g b)) : Alike S (x >>= f) (y >>= g) := by
  cases h with
  | error e => exact .error e
  | ok h => exact hfg _ _ h

theorem mapError (h : Alike R x y) (f : ε → ε') : Alike R (x.mapError f) (y.mapError f) := by
  cases h with
  | error e => exact .error (f e)
  | ok h => exact .ok h

theorem map (x : Except ε α) (f : α → β) : Alike (fun a b => b = f a) x (x.map f) := by
  cases x with
  | error e => exact .error e
  | ok a => exact .ok rfl

theorem error_or_ok (h : Alike R x y) : (∃ e, x = .error e ∧ y = .error e) ∨
    ∃ a b, x = .ok a ∧ y = .ok b ∧ R a b := by
  cases h with
  | error e => exact .inl ⟨e, rfl, rfl⟩
  | ok h => exact .inr ⟨_, _, rfl, rfl, h⟩

theorem eq_map {f : α → β} (h : Alike (fun a b => b = f a) x y) : y = x.map f := by
  cases h with
  | error e => rfl
  | ok h => exact congrArg Except.ok h

theorem of_ok {a : α} (h : Alike R x y) (hx : x = .ok a) : ∃ b, y = .ok b ∧ R a b := by
  cases h with
  | error e => cases hx
  | ok h =>
    cases hx
    exact ⟨_, rfl, h⟩

end Alike

end Except
