import DatedMoney.Json.Parser
import DatedMoney.Json.Printer
import DatedMoney.Proofs.Outcome
import DatedMoney.Proofs.Text.Numeral

/-!
# Data of short integers

Data is displayed if and only if none of its integers has too many digits (`isSome_display?_iff`).
None has in what is read from a text (`isShort_of_read`).
-/

namespace DatedMoney.Json

/-- Whether all integers in a value are short. -/
def isShort (j : Json) : Bool :=
  j.everyLeaf fun
    | .int n => Text.isShort n
    | _ => true

theorem isShort_int (n : Int) : (int n).isShort = Text.isShort n := by
  rw [isShort, everyLeaf]
  · simp
  · simp

theorem everyItem_iff {p : Json → Bool} {xs : List Json} :
    everyItem p xs ↔ ∀ x ∈ xs, x.everyLeaf p := by
  induction xs with
  | nil => simp [everyItem]
  | cons x xs ih => rw [everyItem, Bool.and_eq_true, ih, List.forall_mem_cons]

theorem everyMember_iff {p : Json → Bool} {members : List (String × Json)} :
    everyMember p members ↔ ∀ m ∈ members, m.2.everyLeaf p := by
  induction members with
  | nil => simp [everyMember]
  | cons m members ih => rw [everyMember, Bool.and_eq_true, ih, List.forall_mem_cons]

theorem isShort_array_iff {xs : List Json} : (array xs).isShort ↔ ∀ x ∈ xs, x.isShort := by
  rw [isShort, everyLeaf, everyItem_iff]
  rfl

theorem isShort_object_iff {members : List (String × Json)} :
    (object members).isShort ↔ ∀ m ∈ members, m.2.isShort := by
  rw [isShort, everyLeaf, everyMember_iff]
  rfl

/-! ## What is displayed -/

mutual

theorem isSome_displayInner (j : Json) : j.displayInner.isSome ↔ j.isShort := by
  cases j with
  | array xs =>
    rw [isShort_array_iff, ← isSome_displayItems xs, displayInner]
    cases displayItems xs <;> simp
  | object members =>
    rw [isShort_object_iff, ← isSome_displayMembers members, displayInner]
    cases displayMembers members <;> simp
  | int n =>
    rw [isShort_int, displayInner]
    split <;> simp_all
  | _ => exact iff_of_true rfl rfl

theorem isSome_displayItems (xs : List Json) :
    (displayItems xs).isSome ↔ ∀ x ∈ xs, x.isShort := by
  cases xs with
  | nil => simp [displayItems]
  | cons x xs =>
    rw [List.forall_mem_cons, ← isSome_displayInner x, ← isSome_displayItems xs]
    cases xs with
    | nil => cases h : x.displayInner <;> simp [displayItems, h]
    | cons y ys =>
      rw [displayItems]
      · cases x.displayInner <;> cases displayItems (y :: ys) <;> simp
      · simp

theorem isSome_displayMembers (members : List (String × Json)) :
    (displayMembers members).isSome ↔ ∀ m ∈ members, m.2.isShort := by
  cases members with
  | nil => simp [displayMembers]
  | cons m members =>
    obtain ⟨k, x⟩ := m
    rw [List.forall_mem_cons, ← isSome_displayInner x, ← isSome_displayMembers members]
    cases members with
    | nil => cases h : x.displayInner <;> simp [displayMembers, h]
    | cons m' members =>
      rw [displayMembers]
      · cases x.displayInner <;> cases displayMembers (m' :: members) <;> simp
      · simp

end

theorem isSome_display?_iff (j : Json) : j.display?.isSome ↔ j.isShort := by
  cases j with
  | string s => exact iff_of_true rfl rfl
  | halved codes half => exact iff_of_true rfl rfl
  | _ =>
    rw [← isSome_displayInner, display?]
    · simp
    · simp
    · simp

/-! ## What is read -/

theorem isShort_of_readNumber {negative : Bool} {cs rest : List Char} {j : Json}
    (h : readNumber negative cs = .ok (j, rest)) : j.isShort := by
  have hdigits : ∀ c ∈ (splitDigits cs).1, Text.isDigit c :=
    List.all_eq_true.1 List.all_takeWhile
  rw [readNumber] at h
  generalize splitDigits cs = p at h hdigits
  obtain ⟨whole, cs⟩ := p
  dsimp only at h hdigits
  split at h
  · cases h
  generalize fraction cs = p at h
  obtain ⟨f, cs⟩ := p
  dsimp only at h
  generalize exponent? cs = p at h
  obtain ⟨e?, cs⟩ := p
  dsimp only at h
  split at h
  · split at h
    · cases h
    · rename_i hlength
      cases h
      rw [isShort_int, Text.isShort_iff, List.append_nil]
      refine Nat.lt_of_le_of_lt (m := Nat.ofDigitChars 10 whole 0) ?_
        (Nat.lt_of_lt_of_le (Text.ofDigitChars_lt hdigits)
          (Nat.pow_le_pow_right (by decide) (Nat.not_lt.1 hlength)))
      split <;> omega
  · cases h
    rfl

theorem isShort_of_word? {cs rest : List Char} {j : Json} (h : word? cs = some (j, rest)) :
    j.isShort := by
  obtain ⟨⟨w, j'⟩, hword, h⟩ := List.exists_of_findSome?_eq_some h
  have hwords : ∀ p ∈ words, p.2.isShort := by decide
  dsimp only at h
  split at h
  · cases h
    exact hwords _ hword
  · cases h

theorem isShort_putMember (name : JsonText) {j : Json} {members : List (String × Json)}
    (hj : j.isShort) (hmembers : ∀ m ∈ members, m.2.isShort) :
    ∀ m ∈ putMember name j members, m.2.isShort := by
  intro m hm
  obtain rfl | hm := Dictionary.eq_or_mem_of_mem_put hm
  · cases name with
    | text s => exact hj
    | halved codes half =>
      exact isShort_array_iff.2 (List.forall_mem_cons.2 ⟨rfl, List.forall_mem_singleton.2 hj⟩)
  · exact hmembers m hm

/-- What the readers keep, given some fuel. -/
structure ReadsShort (fuel : Nat) : Prop where
  value {depth : Nat} {cs rest : List Char} {j : Json}
    (h : readValue fuel depth cs = .ok (j, rest)) : j.isShort
  items {depth : Nat} {reversed : List Json} {cs rest : List Char} {j : Json}
    (hreversed : ∀ x ∈ reversed, x.isShort)
    (h : readItems fuel depth reversed cs = .ok (j, rest)) : j.isShort
  members {depth : Nat} {before : List (String × Json)} {cs rest : List Char} {j : Json}
    (hbefore : ∀ m ∈ before, m.2.isShort)
    (h : readMembers fuel depth before cs = .ok (j, rest)) : j.isShort

namespace ReadsShort
variable {fuel depth : Nat} {cs rest : List Char} {j : Json}

theorem value_succ (ih : ReadsShort fuel) (h : readValue (fuel + 1) depth cs = .ok (j, rest)) :
    j.isShort := by
  rw [readValue] at h
  split at h
  · obtain ⟨⟨s, cs⟩, -, h⟩ := Except.bind_eq_ok_iff.1 h
    cases h
    cases s <;> rfl
  · split at h
    · cases h
    split at h
    · cases h
      rfl
    · exact ih.items (List.forall_mem_nil _) h
  · split at h
    · cases h
    split at h
    · cases h
      rfl
    · exact ih.members (List.forall_mem_nil _) h
  · split at h
    · rename_i hword
      cases h
      exact isShort_of_word? hword
    · exact isShort_of_readNumber h
    · exact isShort_of_readNumber h

theorem items_succ (ih : ReadsShort fuel) {reversed : List Json}
    (hreversed : ∀ x ∈ reversed, x.isShort)
    (h : readItems (fuel + 1) depth reversed cs = .ok (j, rest)) : j.isShort := by
  rw [readItems] at h
  obtain ⟨⟨x, cs⟩, hx, h⟩ := Except.bind_eq_ok_iff.1 h
  have hall : ∀ x' ∈ x :: reversed, x'.isShort := List.forall_mem_cons.2 ⟨ih.value hx, hreversed⟩
  dsimp only at h
  split at h
  · exact ih.items hall h
  · cases h
    exact isShort_array_iff.2 fun x' hx' => hall x' (List.mem_reverse.1 hx')
  · cases h

theorem members_succ (ih : ReadsShort fuel) {before : List (String × Json)}
    (hbefore : ∀ m ∈ before, m.2.isShort)
    (h : readMembers (fuel + 1) depth before cs = .ok (j, rest)) : j.isShort := by
  rw [readMembers] at h
  split at h
  · obtain ⟨⟨name, cs⟩, -, h⟩ := Except.bind_eq_ok_iff.1 h
    dsimp only at h
    split at h
    · obtain ⟨⟨x, cs⟩, hx, h⟩ := Except.bind_eq_ok_iff.1 h
      have hall := isShort_putMember name (ih.value hx) hbefore
      dsimp only at h
      split at h
      · exact ih.members hall h
      · cases h
        exact isShort_object_iff.2 hall
      · cases h
    · cases h
  · cases h

end ReadsShort

theorem readsShort (fuel : Nat) : ReadsShort fuel := by
  induction fuel with
  | zero =>
    constructor
    · intro _ _ _ _ h
      cases h
    · intro _ _ _ _ _ _ h
      cases h
    · intro _ _ _ _ _ _ h
      cases h
  | succ fuel ih => exact ⟨ih.value_succ, ih.items_succ, ih.members_succ⟩

theorem isShort_of_read {depth : Nat} {s : String} {j : Json} (h : read depth s = .ok j) :
    j.isShort := by
  obtain ⟨⟨j', rest⟩, hread, h⟩ := Except.bind_eq_ok_iff.1 h
  dsimp only at h
  split at h
  · cases h
    exact (readsShort _).value hread
  · cases h

end DatedMoney.Json
