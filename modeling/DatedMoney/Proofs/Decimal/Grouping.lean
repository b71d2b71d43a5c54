import DatedMoney.Decimal.Printer
import Mathlib.Data.List.Basic

/-!
# Grouped digits

Grouping puts commas among digits and does nothing else (`filter_grouped`). They stand at every
fourth place counted from the end (`spaced_grouped`), and no other text of the same digits has them
there (`grouped_filter`).
-/

namespace DatedMoney.Decimal

/-- The digits with their commas, all in reverse. -/
def withCommas : List Char → List Char
  | a :: b :: c :: d :: ds => a :: b :: c :: ',' :: withCommas (d :: ds)
  | ds => ds

theorem groupOnto_eq (ds acc : List Char) : groupOnto ds acc = (withCommas ds).reverse ++ acc := by
  fun_induction withCommas ds generalizing acc with
  | case1 a b c d ds ih => simp [groupOnto, ih]
  | case2 ds h => rw [groupOnto]; exact h

theorem reverse_grouped (ds : List Char) : (grouped ds).reverse = withCommas ds.reverse := by
  rw [grouped, groupOnto_eq, List.append_nil, List.reverse_reverse]

/-- Every fourth character is a comma, and no other. -/
def Spaced (cs : List Char) : Prop := ∀ i c, cs[i]? = some c → (c = ',' ↔ i % 4 = 3)

theorem spaced_iff {a b c d : Char} {cs : List Char} : Spaced (a :: b :: c :: d :: cs) ↔
    (a ≠ ',' ∧ b ≠ ',' ∧ c ≠ ',' ∧ d = ',') ∧ Spaced cs := by
  constructor
  · intro h
    have h0 := h 0 a rfl
    have h1 := h 1 b rfl
    have h2 := h 2 c rfl
    have h3 := h 3 d rfl
    refine ⟨⟨by simpa using h0, by simpa using h1, by simpa using h2, by simpa using h3⟩, ?_⟩
    intro i x hx
    rw [h (i + 4) x hx, Nat.add_mod_right]
  · rintro ⟨⟨ha, hb, hc, rfl⟩, h⟩ i x hx
    match i with
    | 0 | 1 | 2 => simp_all
    | 3 => simp_all [eq_comm]
    | i + 4 => rw [h i x hx, Nat.add_mod_right]

/-- Up to three characters are none of them commas. -/
theorem spaced_short {cs : List Char} (h : cs.length ≤ 3) : Spaced cs ↔ ∀ c ∈ cs, c ≠ ',' := by
  constructor
  · intro hs c hc
    obtain ⟨i, hi⟩ := List.mem_iff_getElem?.1 hc
    have hlt := (List.getElem?_eq_some_iff.1 hi).1
    exact mt (hs i c hi).1 (by omega)
  · intro hs i c hi
    have hlt := (List.getElem?_eq_some_iff.1 hi).1
    exact iff_of_false (hs c (List.mem_of_getElem? hi)) (by omega)

theorem length_le_three {ds : List Char} (h : ∀ a b c d cs, ds = a :: b :: c :: d :: cs → False) :
    ds.length ≤ 3 := by
  match ds, h with
  | [], _ | [_], _ | [_, _], _ | [_, _, _], _ => simp
  | a :: b :: c :: d :: cs, h => exact (h a b c d cs rfl).elim

theorem filter_withCommas {ds : List Char} (h : ∀ c ∈ ds, c ≠ ',') :
    (withCommas ds).filter (· ≠ ',') = ds := by
  fun_induction withCommas ds with
  | case1 a b c d ds ih =>
    obtain ⟨ha, hb, hc, h⟩ := by simpa only [List.forall_mem_cons] using h
    have ih := ih (List.forall_mem_cons.2 h)
    simp only [ne_eq, decide_not] at ih
    simp [ha, hb, hc, ih]
  | case2 ds _ => exact List.filter_eq_self.2 fun c hc => decide_eq_true (h c hc)

theorem spaced_withCommas {ds : List Char} (h : ∀ c ∈ ds, c ≠ ',') : Spaced (withCommas ds) := by
  fun_induction withCommas ds with
  | case1 a b c d ds ih =>
    obtain ⟨ha, hb, hc, h⟩ := by simpa only [List.forall_mem_cons] using h
    exact spaced_iff.2 ⟨⟨ha, hb, hc, rfl⟩, ih (List.forall_mem_cons.2 h)⟩
  | case2 ds hshort => exact (spaced_short (length_le_three hshort)).2 h

/-- Commas at the right places are those that grouping puts there, unless there is one too many at
the far end. -/
theorem withCommas_filter {cs : List Char} (h : Spaced cs) (hlast : cs.getLast? ≠ some ',') :
    withCommas (cs.filter (· ≠ ',')) = cs := by
  match cs with
  | [] | [_] | [_, _] | [_, _, _] =>
    rw [List.filter_eq_self.2 fun c hc => decide_eq_true ((spaced_short (by simp)).1 h c hc)]
    rfl
  | [a, b, c, d] =>
    obtain ⟨⟨-, -, -, rfl⟩, -⟩ := spaced_iff.1 h
    exact absurd rfl hlast
  | a :: b :: c :: d :: e :: cs =>
    obtain ⟨⟨ha, hb, hc, rfl⟩, h'⟩ := spaced_iff.1 h
    have he : e ≠ ',' := mt (h' 0 e rfl).1 (by decide)
    have ih := withCommas_filter h' (by simpa using hlast)
    simp only [ha, hb, hc, he, ne_eq, not_false_eq_true, decide_true, List.filter_cons_of_pos,
      not_true_eq_false, decide_false, Bool.false_eq_true, List.filter_cons_of_neg] at ih ⊢
    rw [withCommas, ih]

theorem getLast?_withCommas (ds : List Char) : (withCommas ds).getLast? = ds.getLast? := by
  fun_induction withCommas ds with
  | case1 a b c d ds ih => simp [ih, List.getLast?_cons]
  | case2 ds _ => rfl

/-! ## In order -/

theorem filter_grouped {ds : List Char} (h : ∀ c ∈ ds, c ≠ ',') :
    (grouped ds).filter (· ≠ ',') = ds := by
  rw [← List.reverse_inj, ← List.filter_reverse, reverse_grouped]
  exact filter_withCommas fun c hc => h c (List.mem_reverse.1 hc)

theorem spaced_grouped {ds : List Char} (h : ∀ c ∈ ds, c ≠ ',') : Spaced (grouped ds).reverse := by
  rw [reverse_grouped]
  exact spaced_withCommas fun c hc => h c (List.mem_reverse.1 hc)

theorem grouped_filter {cs : List Char} (h : Spaced cs.reverse) (hhead : cs.head? ≠ some ',') :
    grouped (cs.filter (· ≠ ',')) = cs := by
  rw [← List.reverse_inj, reverse_grouped, ← List.filter_reverse]
  exact withCommas_filter h (by rwa [List.getLast?_reverse])

theorem head?_grouped (ds : List Char) : (grouped ds).head? = ds.head? := by
  rw [← List.getLast?_reverse, reverse_grouped, getLast?_withCommas, List.getLast?_reverse]

end DatedMoney.Decimal
