import DatedMoney.Proofs.Notation.Fields
import Mathlib.Data.List.TakeWhile

/-!
# The position at which a text is refused

A text that is refused at a position is the beginning of some notation up to there
(`value_begins`): whatever the scanner has taken in can be completed. And once the text goes on past
what was expected there, nothing written after it makes it notation (`value_stays`). The exception
is a method whose suffix is not finished (`Unfinished`): until the colon after the suffix is there,
the scanner takes its letters for a year.
-/

namespace DatedMoney.Notation

/-! ## Reasons -/

/-- How many characters were expected, where the position is part of the reason. -/
def Expectation.width? : Expectation → Option Nat
  | .literal _ | .amount | .method => some 1
  | .digits part => some part.width
  | .nothing => some 0
  | .symbol | .number _ | .inRange .. => none

theorem Reason.exists_message {r : Reason} {k : Nat} (h : r.expectation.width? = some k) :
    ∃ front, r.message = front ++ s!"at position {r.position}" := by
  obtain ⟨e, position⟩ := r
  cases e with
  | symbol | number | inRange => cases h
  | _ => exact ⟨_, rfl⟩

/-! ## What stands before the position

Each part of the grammar has a text, so each beginning that the scanner has taken in has an end. -/

instance : Inhabited (Numeral part) :=
  ⟨⟨List.replicate part.width '0', List.length_replicate, fun c hc => by
    rw [List.eq_of_mem_replicate hc]
    decide⟩⟩

instance : Inhabited (BoundedNumeral .month 1 12) :=
  ⟨⟨⟨['0', '1'], rfl, List.all_eq_true.1 rfl⟩, by decide, by decide⟩⟩

instance : Inhabited (BoundedNumeral .day 1 31) :=
  ⟨⟨⟨['0', '1'], rfl, List.all_eq_true.1 rfl⟩, by decide, by decide⟩⟩

instance : Inhabited DateText := ⟨.yearly default⟩

instance : Inhabited AmountText := ⟨⟨'0', [], none, by decide, by simp⟩⟩

instance : Inhabited MethodText :=
  ⟨⟨['A'], none, by simp, List.all_eq_true.1 rfl, by simp, by simp⟩⟩

/-- What comes before the rest is the beginning of one of the texts. -/
def Begins (text : α → List Char) (cs rest : List Char) : Prop :=
  ∃ done back a, cs = done ++ rest ∧ text a = done ++ back

namespace Begins
variable {text : α → List Char} {text' : β → List Char} {cs rest back : List Char}

theorem of_eq (front : List Char) (a : α) (h : text a = front ++ back) (cs : List Char) :
    Begins text (front ++ cs) cs :=
  ⟨front, back, a, rfl, h⟩

/-- A part begun after other parts begins the whole. -/
theorem after (front : List Char) (h : Begins text cs rest)
    (hwhole : ∀ a, ∃ b back, text' b = front ++ (text a ++ back)) :
    Begins text' (front ++ cs) rest := by
  obtain ⟨done, back, a, rfl, ha⟩ := h
  obtain ⟨b, back', hb⟩ := hwhole a
  exact ⟨front ++ done, back ++ back', b, by simp, by simp [hb, ha]⟩

end Begins

section
variable {cs rest : List Char} {e : Expectation} {k : Nat}

theorem digits_error (h : digits part cs = .error (e, rest)) : rest = cs := by
  rw [digits] at h
  split at h
  · cases h
  · cases h
    rfl

theorem literal_error {c : Char} (h : literal c cs = .error (e, rest)) : rest = cs := by
  cases cs with
  | nil =>
    cases h
    rfl
  | cons c' cs =>
    rw [literal] at h
    split at h
    · cases h
    · cases h
      rfl

theorem method_error (h : method cs = .error (e, rest)) : rest = cs := by
  rw [method] at h
  split at h
  · cases h
    rfl
  · cases h

/-- A number out of range is refused without a position. -/
theorem bounded_error {low high : Int}
    (h : (bounded part cs : Except _ (Bounded low high × _)) = .error (e, rest))
    (he : e.width? = some k) : rest = cs := by
  rcases Except.bind_eq_error_iff.1 h with h | ⟨⟨n, cs'⟩, -, h⟩
  · exact digits_error h
  · dsimp only at h
    split at h
    · cases h
    · cases h
      cases he

theorem date_begins (h : date cs = .error (e, rest)) (he : e.width? = some k) :
    Begins DateText.text cs rest := by
  rcases Except.bind_eq_error_iff.1 h with hy | ⟨⟨n, cs₁⟩, hy, h₁⟩
  · rw [digits_error hy]
    exact Begins.of_eq [] (default : DateText) rfl cs
  obtain ⟨y, rfl, rfl⟩ := digits_sound hy
  dsimp only at h₁
  split at h₁
  swap
  · cases h₁
  rename_i cs₂
  rcases Except.bind_eq_error_iff.1 h₁ with hm | ⟨⟨b, cs₃⟩, hm, h₂⟩
  · rw [bounded_error hm he, List.append_cons]
    exact .of_eq _ (DateText.monthly y default) (List.append_cons ..) cs₂
  obtain ⟨m, rfl, rfl⟩ := bounded_sound hm
  dsimp only at h₂
  split at h₂
  swap
  · cases h₂
  rename_i cs₄
  rcases Except.bind_eq_error_iff.1 h₂ with hd | ⟨⟨b, cs₅⟩, hd, h₃⟩
  · have hday : (DateText.daily y m default).text =
        (y.chars ++ '-' :: (m.chars ++ ['-'])) ++ (default : BoundedNumeral .day 1 31).chars := by
      simp [DateText.text]
    rw [bounded_error hd he]
    simpa using Begins.of_eq _ _ hday cs₄
  · cases h₃

theorem amount_begins (h : amount cs = .error (e, rest)) : Begins AmountText.text cs rest := by
  rw [amount] at h
  split at h
  swap
  · cases h
    exact Begins.of_eq [] (default : AmountText) rfl cs
  rename_i hhead
  obtain ⟨c, more, after, hc, hmore, rfl, hwhole, hafter⟩ := exists_whole hhead
  rw [hwhole, hafter] at h
  dsimp only at h
  split at h
  · rename_i cs₁
    rcases Except.bind_eq_error_iff.1 h with h₁ | ⟨⟨n, cs₂⟩, -, h₁⟩
    · have hcents : (AmountText.mk c more (some default) hc hmore).text =
          (c :: more ++ ['.']) ++ (default : Numeral .fraction).chars := by
        simp [AmountText.text, AmountText.whole, partAfter]
      rw [digits_error h₁]
      simpa using Begins.of_eq _ _ hcents cs₁
    · cases h₁
  · cases h

theorem provenance_begins (h : provenance cs = .error (e, rest)) (he : e.width? = some k) :
    Begins Sentence.originText cs rest := by
  have horigin (m : MethodText) (d : DateText) :
      Sentence.originText (some (m, d)) = '[' :: (m.text ++ ':' :: (d.text ++ [']'])) := by
    simp [Sentence.originText, partAfter]
  unfold provenance at h
  split at h
  swap
  · cases h
  rename_i cs₁
  rcases Except.bind_eq_error_iff.1 h with hm | ⟨⟨name, cs₂⟩, hm, h₁⟩
  · rw [method_error hm]
    exact .of_eq ['['] (some (default, default)) (horigin ..) cs₁
  obtain ⟨m, rfl, rfl⟩ := method_sound hm
  rcases Except.bind_eq_error_iff.1 h₁ with hl | ⟨⟨u, cs₃⟩, hl, h₂⟩
  · rw [literal_error hl]
    exact .of_eq ('[' :: m.text) (some (m, default)) (horigin ..) cs₂
  obtain rfl := literal_sound hl
  rcases Except.bind_eq_error_iff.1 h₂ with hd | ⟨⟨x, cs₄⟩, hd, h₃⟩
  · have hdate : Begins Sentence.originText ('[' :: (m.text ++ [':']) ++ cs₃) rest :=
      (date_begins hd he).after _ fun d => ⟨some (m, d), [']'], by simp [horigin]⟩
    simpa using hdate
  obtain ⟨d, rfl, rfl⟩ := date_sound hd
  rcases Except.bind_eq_error_iff.1 h₃ with hl | ⟨⟨u, cs₅⟩, hl, h₄⟩
  · rw [literal_error hl]
    have hend : Sentence.originText (some (m, d)) =
        '[' :: (m.text ++ ':' :: d.text) ++ [']'] := by
      simp [horigin]
    simpa using Begins.of_eq _ _ hend cs₄
  · cases h₄

theorem value_begins (h : value cs = .error (e, rest)) (he : e.width? = some k) :
    Begins Sentence.text cs rest := by
  rcases Except.bind_eq_error_iff.1 h with hs | ⟨⟨c, cs₁⟩, hs, h₁⟩
  · rw [symbol] at hs
    split at hs
    · cases hs
    · cases hs
      cases he
  obtain ⟨hc, rfl⟩ := symbol_sound hs
  rcases Except.bind_eq_error_iff.1 h₁ with ha | ⟨⟨x, cs₂⟩, ha, h₂⟩
  · refine (amount_begins ha).after _ fun a => ?_
    exact ⟨⟨c, a, default, none, hc⟩, '@' :: (default : DateText).text, by
      simp [Sentence.text, Sentence.originText, partAfter]⟩
  obtain ⟨a, rfl, rfl⟩ := amount_sound ha
  rcases Except.bind_eq_error_iff.1 h₂ with hl | ⟨⟨u, cs₃⟩, hl, h₃⟩
  · rw [literal_error hl, ← List.append_assoc]
    exact .of_eq _ (Sentence.mk c a default none hc) (List.append_assoc ..) cs₂
  obtain rfl := literal_sound hl
  rcases Except.bind_eq_error_iff.1 h₃ with hd | ⟨⟨y, cs₄⟩, hd, h₄⟩
  · have hdate : Begins Sentence.text (c.symbol.toList ++ a.text ++ ['@'] ++ cs₃) rest :=
      (date_begins hd he).after _ fun d => ⟨⟨c, a, d, none, hc⟩, [], by
        simp [Sentence.text, Sentence.originText, partAfter]⟩
    simpa using hdate
  obtain ⟨d, rfl, rfl⟩ := date_sound hd
  rcases Except.bind_eq_error_iff.1 h₄ with hp | ⟨⟨p, cs₅⟩, hp, h₅⟩
  · have horigin : Begins Sentence.text (c.symbol.toList ++ a.text ++ '@' :: d.text ++ cs₄) rest :=
      (provenance_begins hp he).after _ fun o => ⟨⟨c, a, d, o, hc⟩, [], by simp [Sentence.text]⟩
    simpa using horigin
  · cases h₅

end

/-! ## What can be written after a text -/

/-- The same outcome with more text after the rest. -/
def extend (x : List Char) (r : Except (Expectation × List Char) (α × List Char)) :
    Except (Expectation × List Char) (α × List Char) :=
  match r with
  | .error (e, rest) => .error (e, rest ++ x)
  | .ok (a, rest) => .ok (a, rest ++ x)

/-- The text goes on after the part, or past what was expected instead of it. -/
inductive Decided : Except (Expectation × List Char) (α × List Char) → Prop where
  | ok (a : α) (c : Char) (rest : List Char) : Decided (.ok (a, c :: rest))
  | error {e : Expectation} {k : Nat} {rest : List Char} (he : e.width? = some k)
      (hk : k < rest.length) : Decided (.error (e, rest))

/-- The outcome on a longer text is the same, unless the shorter one left it open. -/
def Stays (x : List Char) (r r' : Except (Expectation × List Char) (α × List Char)) : Prop :=
  Decided r → r' = extend x r

theorem not_decided_ok (a : α) : ¬Decided (.ok (a, [])) := by
  intro h
  cases h

theorem not_decided_error (e : Expectation) : ¬Decided (.error (e, []) : Except _ (α × _)) := by
  intro h
  cases h with
  | error he hk => cases hk

namespace Stays
variable {x : List Char} {r r' : Except (Expectation × List Char) (α × List Char)}

theorem of_eq (h : r' = extend x r) : Stays x r r' := fun _ => h

theorem of_not (h : ¬Decided r) : Stays x r r' := fun h' => absurd h' h

/-- A part that ends with the text leaves open what comes after it, and so does the whole. -/
theorem bind {g : α × List Char → Except (Expectation × List Char) (β × List Char)}
    (h : Stays x r r') (hnil : ∀ a, ¬Decided (g (a, [])))
    (hg : ∀ a c rest, r = .ok (a, c :: rest) → Stays x (g (a, c :: rest)) (g (a, c :: rest ++ x))) :
    Stays x (r >>= g) (r' >>= g) := by
  obtain ⟨⟨e, rest⟩, rfl⟩ | ⟨⟨a, rest⟩, rfl⟩ := r.error_or_ok
  · intro hd
    cases hd with
    | error he hk =>
      rw [h (.error he hk)]
      rfl
  · cases rest with
    | nil => exact of_not (hnil a)
    | cons c rest =>
      rw [h (.ok a c rest)]
      exact hg a c rest rfl

end Stays

section
variable (x : List Char)

theorem digits_stays (part : Part) (cs : List Char) :
    Stays x (digits part cs) (digits part (cs ++ x)) := by
  by_cases hlength : part.width ≤ cs.length
  · refine .of_eq ?_
    rw [digits, digits, List.take_append_of_le_length hlength,
      List.drop_append_of_le_length hlength]
    split <;> rfl
  · have herror : digits part cs = .error (.digits part, cs) := by
      rw [digits, if_neg]
      rintro ⟨htake, -⟩
      exact hlength (htake ▸ List.length_take_le' ..)
    rw [herror]
    refine .of_not fun hd => ?_
    cases hd with
    | error he hk =>
      cases he
      exact hlength hk.le

theorem literal_stays (c c' : Char) (cs : List Char) :
    Stays x (literal c (c' :: cs)) (literal c (c' :: cs ++ x)) := by
  refine .of_eq ?_
  rw [List.cons_append, literal, literal]
  split <;> rfl

theorem bounded_stays (part : Part) (low high : Int) (cs : List Char) :
    Stays x (bounded part cs : Except _ (Bounded low high × _)) (bounded part (cs ++ x)) := by
  refine (digits_stays x part cs).bind (fun n => ?_) fun n c rest _ => .of_eq ?_
  · dsimp only
    split
    · exact not_decided_ok _
    · exact not_decided_error _
  · dsimp only
    split <;> rfl

theorem date_stays (cs : List Char) : Stays x (date cs) (date (cs ++ x)) := by
  refine (digits_stays x .year cs).bind (fun y => not_decided_ok _) fun y c rest _ => ?_
  by_cases hc : c = '-'
  swap
  · refine .of_eq ?_
    simp [hc, extend]
  subst hc
  refine (bounded_stays x .month 1 12 rest).bind (fun m => not_decided_ok _) fun m c rest _ => ?_
  by_cases hc : c = '-'
  swap
  · refine .of_eq ?_
    simp [hc, extend]
  subst hc
  exact (bounded_stays x .day 1 31 rest).bind (fun d => not_decided_ok _)
    fun d c rest _ => .of_eq rfl

theorem symbol_stays (cs : List Char) : Stays x (symbol cs) (symbol (cs ++ x)) := by
  intro hd
  obtain ⟨⟨e, rest⟩, h⟩ | ⟨⟨c, rest⟩, h⟩ := (symbol cs).error_or_ok
  · have he : e = .symbol := by
      rw [symbol] at h
      split at h
      · cases h
      · cases h
        rfl
    rw [h, he] at hd
    cases hd with
    | error he => cases he
  · obtain ⟨hc, rfl⟩ := symbol_sound h
    rw [h, List.append_assoc, symbol_complete hc]
    rfl

/-- The rest of a row that ends before the text does. -/
theorem append_of_dropWhile {p : Char → Bool} {cs rest : List Char} {c : Char}
    (h : cs.dropWhile p = c :: rest) :
    (cs ++ x).takeWhile p = cs.takeWhile p ∧ (cs ++ x).dropWhile p = c :: rest ++ x := by
  have hall : ∀ a ∈ cs.takeWhile p, p a := List.all_eq_true.1 List.all_takeWhile
  have hc : p c = false := by
    simpa [h] using List.head_dropWhile_not (l := cs) p (by simp [h])
  have hsplit : cs ++ x = cs.takeWhile p ++ c :: (rest ++ x) := by
    rw [← List.cons_append, ← h, ← List.append_assoc, List.takeWhile_append_dropWhile]
  rw [hsplit]
  exact ⟨takeWhile_append_stop hall hc, dropWhile_append_stop hall hc⟩

theorem amount_stays (cs : List Char) : Stays x (amount cs) (amount (cs ++ x)) := by
  cases cs with
  | nil => exact .of_not (not_decided_error _)
  | cons c cs =>
    by_cases hc : Text.isDigit c
    swap
    · refine .of_eq ?_
      simp [amount, hc, extend]
    have hhead (cs : List Char) : (c :: cs).head?.any Text.isDigit := hc
    rw [amount, amount, if_pos (hhead _), List.cons_append, if_pos (hhead _), ← List.cons_append]
    cases hrest : (c :: cs).dropWhile isDigitOrComma with
    | nil => exact .of_not (not_decided_ok _)
    | cons d rest =>
      rw [(append_of_dropWhile x hrest).1, (append_of_dropWhile x hrest).2]
      by_cases hd : d = '.'
      swap
      · refine .of_eq ?_
        simp [hd, extend]
      subst hd
      exact (digits_stays x .fraction rest).bind (fun n => not_decided_ok _) fun n c rest _ =>
        .of_eq rfl

theorem suffix_append {c : Char} {rest : List Char}
    (h : c = ':' → rest.dropWhile isUpperOrDigit ≠ []) :
    suffix (c :: rest ++ x) = ((suffix (c :: rest)).1, (suffix (c :: rest)).2 ++ x) := by
  by_cases hc : c = ':'
  swap
  · simp [suffix, hc]
  subst hc
  obtain ⟨d, after, hdrop⟩ := List.exists_cons_of_ne_nil (h rfl)
  rw [List.cons_append, suffix, suffix, (append_of_dropWhile x hdrop).1,
    (append_of_dropWhile x hdrop).2, hdrop]
  cases rest.takeWhile isUpperOrDigit with
  | nil => simp
  | cons a s =>
    by_cases hd : d = ':'
    · subst hd
      simp
    · simp [hd]

/-- The text ends with what may be the suffix of a method or a year. -/
def OpenSuffix (cs : List Char) : Prop :=
  ∃ name s, cs = name ++ ':' :: s ∧ name ≠ [] ∧ (∀ c ∈ name, isUpper c) ∧ ∀ c ∈ s, isUpperOrDigit c

theorem method_stays {cs : List Char} (h : ¬OpenSuffix cs) :
    Stays x (method cs) (method (cs ++ x)) := by
  have hupper : ∀ c ∈ cs.takeWhile isUpper, isUpper c := List.all_eq_true.1 List.all_takeWhile
  have hsplit : cs.takeWhile isUpper ++ cs.dropWhile isUpper = cs :=
    List.takeWhile_append_dropWhile
  cases hrest : cs.dropWhile isUpper with
  | nil =>
    rw [hrest, List.append_nil] at hsplit
    cases cs with
    | nil => exact .of_not (not_decided_error _)
    | cons c cs =>
      rw [method, hsplit, hrest]
      exact .of_not (not_decided_ok _)
  | cons c rest =>
    rw [method, method, (append_of_dropWhile x hrest).1, (append_of_dropWhile x hrest).2, hrest]
    cases hname : cs.takeWhile isUpper with
    | nil => exact .of_eq rfl
    | cons a name =>
      have hopen : c = ':' → rest.dropWhile isUpperOrDigit ≠ [] := by
        rintro rfl hnil
        refine h ⟨a :: name, rest, ?_, by simp, hname ▸ hupper, ?_⟩
        · rw [← hname, ← hrest, hsplit]
        · exact List.dropWhile_eq_nil_iff.1 hnil
      refine .of_eq ?_
      rw [suffix_append x hopen]
      rfl

/-- The text ends with a method whose suffix has begun and is not finished. -/
def Unfinished (cs : List Char) : Prop :=
  ∃ name s, cs = '[' :: (name ++ ':' :: s) ∧ name ≠ [] ∧ (∀ c ∈ name, isUpper c) ∧
    s ≠ [] ∧ ∀ c ∈ s, isUpperOrDigit c

theorem provenance_stays {cs : List Char} (h : ¬Unfinished cs) :
    Stays x (provenance cs) (provenance (cs ++ x)) := by
  cases cs with
  | nil => exact .of_not (not_decided_ok _)
  | cons c cs =>
    by_cases hc : c = '['
    swap
    · refine .of_eq ?_
      simp [provenance, hc, extend]
    subst hc
    by_cases hopen : OpenSuffix cs
    · obtain ⟨name, s, rfl, hne, hname, hs⟩ := hopen
      cases s with
      | nil =>
        -- the colon is taken for the one before the date, of which there is nothing yet
        obtain ⟨c, name, rfl⟩ := List.exists_cons_of_ne_nil hne
        rw [provenance, method, takeWhile_append_stop hname isUpper_colon,
          dropWhile_append_stop hname isUpper_colon]
        exact .of_not (not_decided_error _)
      | cons a s => exact absurd ⟨name, a :: s, rfl, hne, hname, by simp, hs⟩ h
    refine (method_stays x hopen).bind (fun m => not_decided_error _) fun m c rest _ => ?_
    refine (literal_stays x ':' c rest).bind (fun u => not_decided_error _) fun u c rest _ => ?_
    refine (date_stays x (c :: rest)).bind (fun d => not_decided_error _) fun d c rest _ => ?_
    exact (literal_stays x ']' c rest).bind (fun u => not_decided_ok _) fun u c rest _ => .of_eq rfl

theorem value_stays {cs : List Char}
    (h : ∀ s : Sentence, s.origin = none → ∀ rest, cs = s.text ++ rest → ¬Unfinished rest) :
    Stays x (value cs) (value (cs ++ x)) := by
  refine (symbol_stays x cs).bind (fun c => not_decided_error _) fun c d rest hs => ?_
  refine (amount_stays x (d :: rest)).bind (fun a => not_decided_error _) fun a d rest ha => ?_
  refine (literal_stays x '@' d rest).bind (fun u => not_decided_error _) fun u d rest hl => ?_
  refine (date_stays x (d :: rest)).bind (fun y => not_decided_ok _) fun y d rest hd => ?_
  obtain ⟨hc, rfl⟩ := symbol_sound hs
  obtain ⟨a, ha, -⟩ := amount_sound ha
  obtain ⟨y, hy, -⟩ := date_sound hd
  rw [literal_sound hl, hy] at ha
  have hunfinished : ¬Unfinished (d :: rest) := by
    refine h ⟨c, a, y, none, hc⟩ rfl _ ?_
    rw [ha]
    simp [Sentence.text, Sentence.originText, partAfter]
  exact (provenance_stays x hunfinished).bind (fun p => not_decided_ok _)
    fun p c rest _ => .of_eq rfl

end

/-! ## Texts -/

/-- What an unfinished method lacks is a source and the closing bracket. -/
theorem Unfinished.exists_text {s : Sentence} {rest : List Char} (hs : s.origin = none)
    (h : Unfinished rest) :
    ∃ (s' : Sentence) (back : List Char), s'.text = s.text ++ rest ++ back := by
  obtain ⟨name, suffix, rfl, hname, hupper, hne, hsuffix⟩ := h
  let m : MethodText := ⟨name, some suffix, hname, hupper, by simpa, by simpa⟩
  refine ⟨{ s with origin := some (m, default) }, ':' :: (default : DateText).text ++ [']'], ?_⟩
  simp [Sentence.text, Sentence.originText, partAfter, hs, m, MethodText.text]

/-- A refusal at a position, as the scanner comes to it: either a part is not as expected or there
is text after the last part. -/
theorem outcome_of_readFields_error {text : String} {r : Reason} {k : Nat}
    (h : readFields text = .error (.invalidNotation text r)) (hk : r.expectation.width? = some k) :
    ∃ rest, r.position = text.toList.length - rest.length ∧
      (value text.toList = .error (r.expectation, rest) ∨
        k = 0 ∧ rest ≠ [] ∧ ∃ v, value text.toList = .ok (v, rest)) := by
  have hscan : scan text = .error (.invalidNotation text r) := by
    obtain heq | ⟨-, part, position, heq⟩ := readFields_eq text
    · rw [heq] at h
      cases hscan : scan text with
      | error e =>
        rw [hscan] at h
        cases h
        rfl
      | ok v =>
        rw [hscan] at h
        cases h
    · rw [heq] at h
      cases h
      cases hk
  rw [scan, scanAs] at hscan
  split at hscan
  · cases hscan
  · rename_i v rest hne hv
    cases hscan
    cases hk
    exact ⟨rest, rfl, .inr ⟨rfl, hne, v, hv⟩⟩
  · rename_i e rest hv
    cases hscan
    exact ⟨rest, rfl, .inl hv⟩

/-- A text refused at a position is the beginning of some notation up to there. Once it goes on past
what was expected at the position, it is the beginning of no notation, unless all that it lacks is
the end of a method whose suffix has begun. -/
theorem viable_of_readFields_error {text : String} {r : Reason} {k : Nat}
    (h : readFields text = .error (.invalidNotation text r)) (hk : r.expectation.width? = some k) :
    r.position ≤ text.length ∧ (∃ front, r.message = front ++ s!"at position {r.position}") ∧
      (∃ tail, accepts (.string (.ofList (text.toList.take r.position) ++ tail))) ∧
      (r.position + k < text.length →
        ((∃ tail, accepts (.string (text ++ tail))) ↔
          ∃ s : Sentence, s.origin = none ∧ ∃ rest, text.toList = s.text ++ rest ∧
            Unfinished rest)) := by
  obtain ⟨rest, hposition, hvalue⟩ := outcome_of_readFields_error h hk
  have hbegins : Begins Sentence.text text.toList rest := by
    rcases hvalue with hvalue | ⟨-, -, v, hvalue⟩
    · exact value_begins hvalue hk
    · obtain ⟨s, hs, -⟩ := value_sound hvalue
      exact hs ▸ .of_eq s.text s (List.append_nil _).symm rest
  obtain ⟨done, back, s, hsplit, hs⟩ := hbegins
  have hlength : text.length = done.length + rest.length := by
    rw [← String.length_toList, hsplit, List.length_append]
  have hdone : r.position = done.length := by
    rw [hposition, String.length_toList, hlength, Nat.add_sub_cancel]
  refine ⟨by omega, Reason.exists_message hk, ⟨.ofList back, accepts_iff_derivable.2 ⟨s, ?_⟩⟩,
    fun hpast => ⟨?_, ?_⟩⟩
  · simp [hs, hsplit, hdone]
  · rintro ⟨tail, htail⟩
    obtain ⟨s', hs'⟩ := accepts_iff_derivable.1 htail
    by_contra hnone
    have hdecided : Decided (value text.toList) := by
      rcases hvalue with hvalue | ⟨-, hne, v, hvalue⟩
      · rw [hvalue]
        exact .error hk (by omega)
      · obtain ⟨c, rest', rfl⟩ := List.exists_cons_of_ne_nil hne
        rw [hvalue]
        exact .ok v c rest'
    have hstays := value_stays tail.toList
      (fun s hs rest hrest hunfinished => hnone ⟨s, hs, rest, hrest, hunfinished⟩) hdecided
    rw [← String.toList_append, ← hs', value_complete] at hstays
    rcases hvalue with hvalue | ⟨-, hne, v, hvalue⟩
    · rw [hvalue] at hstays
      cases hstays
    · rw [hvalue, extend] at hstays
      simp [hne] at hstays
  · rintro ⟨s, horigin, rest, htext, hunfinished⟩
    obtain ⟨s', back, hs'⟩ := hunfinished.exists_text horigin
    exact ⟨.ofList back, accepts_iff_derivable.2 ⟨s', by simp [hs', htext]⟩⟩

/-- `BCDEFG` is no year, and the text is longer than a year would make it, but it may still be the
suffix of a method. -/
theorem viable_of_readFields_error_suffix :
    readFields "$1@2000[A:BCDEFG" =
        .error (.invalidNotation "$1@2000[A:BCDEFG" ⟨.digits .year, 10⟩) ∧
      (∃ tail, accepts (.string ("$1@2000[A:" ++ tail))) ∧
      ∃ tail, accepts (.string ("$1@2000[A:BCDEFG" ++ tail)) := by
  have hread : readFields "$1@2000[A:BCDEFG" =
      .error (.invalidNotation "$1@2000[A:BCDEFG" ⟨.digits .year, 10⟩) := by rfl
  obtain ⟨-, -, hviable, hpast⟩ := viable_of_readFields_error hread rfl
  refine ⟨hread, hviable, (hpast (by decide)).2 ?_⟩
  let s : Sentence := ⟨.usd, ⟨'1', [], none, by decide, by simp⟩,
    .yearly ⟨['2', '0', '0', '0'], rfl, List.all_eq_true.1 rfl⟩, none, by decide⟩
  exact ⟨s, rfl, "[A:BCDEFG".toList, by decide, ['A'], "BCDEFG".toList, by decide, by decide,
    List.all_eq_true.1 rfl, by decide, List.all_eq_true.1 rfl⟩

end DatedMoney.Notation
