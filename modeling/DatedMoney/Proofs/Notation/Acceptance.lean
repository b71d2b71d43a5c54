import DatedMoney.Proofs.Notation.Grammar
import DatedMoney.Proofs.Outcome

/-!
# The scanner accepts the grammar

Each scanner of a part reads the text of a derivation, whatever stands after it
(`…_complete`), and what it reads is the text of a derivation (`…_sound`). Main statement:
the whole scanner succeeds exactly on the texts of sentences, with the value that the one
derivation denotes.
-/

namespace DatedMoney.Notation

/-! ## Digits -/

theorem digits_complete (n : Numeral part) (rest : List Char) :
    digits part (n.chars ++ rest) = .ok (n.value, rest) := by
  have htake : (n.chars ++ rest).take part.width = n.chars := List.take_left' n.length_eq
  have hdrop : (n.chars ++ rest).drop part.width = rest := List.drop_left' n.length_eq
  rw [digits, htake, hdrop]
  exact if_pos ⟨n.length_eq, List.all_eq_true.2 n.digits⟩

theorem digits_sound {cs rest : List Char} {k : Nat} (h : digits part cs = .ok (k, rest)) :
    ∃ n : Numeral part, cs = n.chars ++ rest ∧ n.value = k := by
  rw [digits] at h
  split at h
  · rename_i hds
    cases h
    exact ⟨⟨cs.take part.width, hds.1, List.all_eq_true.1 hds.2⟩,
      (List.take_append_drop ..).symm, rfl⟩
  · cases h

theorem bounded_complete (n : BoundedNumeral part low high) (rest : List Char) :
    bounded part (n.chars ++ rest) = .ok (n.bounded, rest) := by
  rw [bounded, digits_complete, Except.ok_bind]
  have h : (Bounded.ofInt? n.value : Option (Bounded low high)) = some n.bounded :=
    dif_pos ⟨n.low_le, n.le_high⟩
  simp only [h, Except.pure_eq_ok]

theorem bounded_sound {low high : Int} {cs rest : List Char} {b : Bounded low high}
    (h : bounded part cs = .ok (b, rest)) :
    ∃ n : BoundedNumeral part low high, cs = n.chars ++ rest ∧ n.bounded = b := by
  obtain ⟨⟨k, cs'⟩, hk, h⟩ := Except.bind_eq_ok_iff.1 h
  obtain ⟨n, hcs, rfl⟩ := digits_sound hk
  dsimp only at h
  split at h
  · rename_i b' hb
    cases h
    rw [Bounded.ofInt?] at hb
    split at hb
    · rename_i hrange
      cases hb
      exact ⟨⟨n, hrange.1, hrange.2⟩, hcs, rfl⟩
    · cases hb
  · cases h

/-! ## Dates -/

/-- The end of a date can be told by the character after it. -/
theorem date_complete (d : DateText) {rest : List Char} (h : rest.head? ≠ some '-') :
    date (d.text ++ rest) = .ok (d.value, rest) := by
  cases d with
  | yearly y =>
    rw [date, DateText.text, digits_complete, Except.ok_bind]
    dsimp only
    split
    · exact absurd rfl h
    · rfl
  | monthly y m =>
    rw [date, DateText.text, List.append_assoc, digits_complete, Except.ok_bind]
    simp only [List.cons_append, bounded_complete, Except.ok_bind]
    split
    · exact absurd rfl h
    · rfl
  | daily y m d =>
    rw [date, DateText.text, List.append_assoc, digits_complete, Except.ok_bind]
    simp only [List.cons_append, List.append_assoc, bounded_complete, Except.ok_bind]
    rfl

theorem date_sound {cs rest : List Char} {x : Date} (h : date cs = .ok (x, rest)) :
    ∃ d : DateText, cs = d.text ++ rest ∧ d.value = x := by
  obtain ⟨⟨k, cs₁⟩, hy, h⟩ := Except.bind_eq_ok_iff.1 h
  obtain ⟨y, rfl, rfl⟩ := digits_sound hy
  dsimp only at h
  split at h
  · rename_i cs₂
    obtain ⟨⟨b, cs₃⟩, hm, h⟩ := Except.bind_eq_ok_iff.1 h
    obtain ⟨m, rfl, rfl⟩ := bounded_sound hm
    dsimp only at h
    split at h
    · rename_i cs₄
      obtain ⟨⟨b', cs₅⟩, hd, h⟩ := Except.bind_eq_ok_iff.1 h
      obtain ⟨d, rfl, rfl⟩ := bounded_sound hd
      cases h
      exact ⟨.daily y m d, by simp [DateText.text], rfl⟩
    · cases h
      exact ⟨.monthly y m, by simp [DateText.text], rfl⟩
  · cases h
    exact ⟨.yearly y, rfl, rfl⟩

/-! ## Symbols and amounts -/

theorem symbol_complete {c : Currency} (h : c ∈ Currency.readable) (rest : List Char) :
    symbol (c.symbol.toList ++ rest) = .ok (c, rest) := by
  have hfind : Currency.readable.find? (·.symbol.toList.isPrefixOf (c.symbol.toList ++ rest)) =
      some c := by
    cases c <;> simp_all [Currency.readable, Currency.symbol, List.isPrefixOf]
  simp only [symbol, hfind, ← String.length_toList, List.drop_left]

theorem symbol_sound {cs rest : List Char} {c : Currency} (h : symbol cs = .ok (c, rest)) :
    c ∈ Currency.readable ∧ cs = c.symbol.toList ++ rest := by
  rw [symbol] at h
  split at h
  · rename_i c' hc
    cases h
    refine ⟨List.mem_of_find?_eq_some hc, ?_⟩
    have hprefix := List.isPrefixOf_iff_prefix.1
      (List.find?_some (p := fun c : Currency => c.symbol.toList.isPrefixOf cs) hc)
    rw [← String.length_toList]
    exact (List.prefix_iff_eq_append.1 hprefix).symm
  · cases h

theorem takeWhile_append_stop {p : Char → Bool} {xs ys : List Char} {c : Char} (h : ∀ x ∈ xs, p x)
    (hc : p c = false) : (xs ++ c :: ys).takeWhile p = xs := by
  rw [List.takeWhile_append_of_pos h, List.takeWhile_cons_of_neg (by simp [hc]), List.append_nil]

theorem dropWhile_append_stop {p : Char → Bool} {xs ys : List Char} {c : Char} (h : ∀ x ∈ xs, p x)
    (hc : p c = false) : (xs ++ c :: ys).dropWhile p = c :: ys := by
  rw [List.dropWhile_append_of_pos h, List.dropWhile_cons_of_neg (by simp [hc])]

/-- How the digits and commas of an amount are cut off from what comes after them. -/
theorem exists_whole {cs : List Char} (h : cs.head?.any Text.isDigit) : ∃ c more rest,
    Text.isDigit c ∧ (∀ x ∈ more, isDigitOrComma x) ∧ cs = c :: (more ++ rest) ∧
      cs.takeWhile isDigitOrComma = c :: more ∧ cs.dropWhile isDigitOrComma = rest := by
  cases cs with
  | nil => cases h
  | cons c cs =>
    have hc : Text.isDigit c := by simpa using h
    have hcomma := isDigitOrComma_of_isDigit hc
    refine ⟨c, cs.takeWhile isDigitOrComma, cs.dropWhile isDigitOrComma, hc, ?_, ?_, ?_, ?_⟩
    · exact List.all_eq_true.1 List.all_takeWhile
    · rw [List.takeWhile_append_dropWhile]
    · exact List.takeWhile_cons_of_pos hcomma
    · exact List.dropWhile_cons_of_pos hcomma

/-- A text begins with an amount, which cannot be any longer. -/
structure AmountText.Leads (a : AmountText) (cs rest : List Char) : Prop where
  split : cs = a.text ++ rest
  whole : cs.takeWhile isDigitOrComma = a.whole
  point : a.cents = none → rest.head? ≠ some '.'

namespace AmountText
variable {a : AmountText} {cs rest : List Char}

theorem Leads.first (h : a.Leads cs rest) : cs.head?.any Text.isDigit := by
  rw [h.split]
  exact a.first_digit

theorem Leads.afterWhole (h : a.Leads cs rest) :
    cs.dropWhile isDigitOrComma = partAfter '.' (a.cents.map (·.chars)) ++ rest := by
  have hsplit :=
    calc a.whole ++ cs.dropWhile isDigitOrComma
        = cs.takeWhile isDigitOrComma ++ cs.dropWhile isDigitOrComma := by rw [h.whole]
      _ = cs := List.takeWhile_append_dropWhile
      _ = a.whole ++ (partAfter '.' (a.cents.map (·.chars)) ++ rest) := by
        rw [h.split, text, List.append_assoc]
  exact List.append_cancel_left hsplit

theorem leads_at (a : AmountText) (rest : List Char) :
    a.Leads (a.text ++ '@' :: rest) ('@' :: rest) where
  split := rfl
  whole := by
    have hwhole : ∀ c ∈ a.whole, isDigitOrComma c := fun _ => mem_whole
    rw [text, List.append_assoc]
    cases a.cents with
    | none => exact takeWhile_append_stop hwhole (by decide)
    | some f => exact takeWhile_append_stop hwhole (by decide)
  point _ := by simp

/-- Either the digits of the cents are missing after a point, or there is an amount. -/
theorem exists_leads (h : cs.head?.any Text.isDigit) :
    (∃ cs' e, cs.dropWhile isDigitOrComma = '.' :: cs' ∧ digits .fraction cs' = .error e) ∨
      ∃ a rest, AmountText.Leads a cs rest := by
  obtain ⟨c, more, after, hc, hmore, hcs, hwhole, hafter⟩ := exists_whole h
  rw [hafter]
  by_cases hpoint : after.head? = some '.'
  · obtain ⟨cs', rfl⟩ := List.head?_eq_some_iff.1 hpoint
    obtain ⟨e, hf⟩ | ⟨⟨k, rest⟩, hf⟩ := (digits .fraction cs').error_or_ok
    · exact .inl ⟨cs', e, rfl, hf⟩
    · obtain ⟨f, rfl, -⟩ := digits_sound hf
      refine .inr ⟨⟨c, more, some f, hc, hmore⟩, rest, ?_, hwhole, fun h => by cases h⟩
      simp [text, AmountText.whole, partAfter, hcs]
  · refine .inr ⟨⟨c, more, none, hc, hmore⟩, after, ?_, hwhole, fun _ => hpoint⟩
    simp [text, AmountText.whole, partAfter, hcs]

theorem Leads.amount_eq (h : a.Leads cs rest) : amount cs = .ok (a.value, rest) := by
  rw [amount, if_pos h.first, h.whole, h.afterWhole]
  cases hcents : a.cents with
  | none =>
    simp only [Option.map_none, partAfter, List.nil_append]
    split
    · exact absurd rfl (h.point hcents)
    · simp [AmountText.value, hcents]
  | some f =>
    rw [AmountText.value_cents hcents]
    simp only [Option.map_some, partAfter, List.cons_append, digits_complete, Except.ok_bind]
    rfl

end AmountText

theorem amount_complete (a : AmountText) (rest : List Char) :
    amount (a.text ++ '@' :: rest) = .ok (a.value, '@' :: rest) :=
  (a.leads_at rest).amount_eq

theorem amount_sound {cs rest : List Char} {x : Decimal} (h : amount cs = .ok (x, rest)) :
    ∃ a : AmountText, cs = a.text ++ rest ∧ a.value = x := by
  by_cases hfirst : cs.head?.any Text.isDigit
  · obtain ⟨cs', e, hpoint, hf⟩ | ⟨a, rest', hleads⟩ := AmountText.exists_leads hfirst
    · rw [amount, if_pos hfirst, hpoint] at h
      simp only [hf] at h
      cases h
    · rw [hleads.amount_eq] at h
      cases h
      exact ⟨a, hleads.split, rfl⟩
  · rw [amount, if_neg hfirst] at h
    cases h

/-! ## Methods -/

theorem isUpper_colon : isUpper ':' = false := by decide
theorem isUpperOrDigit_colon : isUpperOrDigit ':' = false := by decide

theorem suffix_some {s : List Char} (hne : s ≠ []) (hs : ∀ c ∈ s, isUpperOrDigit c)
    (rest : List Char) :
    suffix (':' :: (s ++ ':' :: rest)) = (':' :: s, ':' :: rest) := by
  obtain ⟨c, s, rfl⟩ := List.exists_cons_of_ne_nil hne
  rw [suffix, takeWhile_append_stop hs isUpperOrDigit_colon,
    dropWhile_append_stop hs isUpperOrDigit_colon]
  rfl

/-- The digits of a year are no suffix, as no colon comes after them. -/
theorem suffix_none (d : DateText) {rest : List Char} (h : rest.head? = some ']') :
    suffix (':' :: (d.text ++ rest)) = ([], ':' :: (d.text ++ rest)) := by
  obtain ⟨rest, rfl⟩ : ∃ rest', rest = ']' :: rest' := by
    cases rest with
    | nil => cases h
    | cons c rest => exact ⟨rest, by simpa using h⟩
  have hyear (y : Numeral .year) : ∀ c ∈ y.chars, isUpperOrDigit c :=
    fun c hc => isUpperOrDigit_of_isDigit (y.digits c hc)
  have hstop : ∃ c ys, (d.text ++ ']' :: rest).dropWhile isUpperOrDigit = c :: ys ∧ c ≠ ':' := by
    cases d with
    | yearly y => exact ⟨_, _, dropWhile_append_stop (hyear y) (by decide), by decide⟩
    | monthly y m =>
      rw [DateText.text, List.append_assoc, List.cons_append]
      exact ⟨_, _, dropWhile_append_stop (hyear y) (by decide), by decide⟩
    | daily y m d =>
      rw [DateText.text, List.append_assoc, List.cons_append]
      exact ⟨_, _, dropWhile_append_stop (hyear y) (by decide), by decide⟩
  obtain ⟨c, ys, hdrop, hc⟩ := hstop
  rw [suffix, hdrop]
  split
  · rename_i heq
    cases heq
    exact absurd rfl hc
  · rfl

/-- The method ends where a colon comes before a date. -/
theorem method_complete (m : MethodText) (d : DateText) {rest : List Char}
    (h : rest.head? = some ']') :
    method (m.text ++ ':' :: (d.text ++ rest)) =
      .ok (⟨m.string, m.string_ne⟩, ':' :: (d.text ++ rest)) := by
  obtain ⟨c, name, hname⟩ := List.exists_cons_of_ne_nil m.name_ne
  rw [MethodText.text, List.append_assoc]
  cases hs : m.suffix with
  | none =>
    rw [partAfter, List.nil_append, method, takeWhile_append_stop m.name_upper isUpper_colon,
      dropWhile_append_stop m.name_upper isUpper_colon, suffix_none d h, hname]
    simp [MethodText.string, MethodText.text, hname, hs, partAfter]
  | some s =>
    rw [partAfter, List.cons_append, method, takeWhile_append_stop m.name_upper isUpper_colon,
      dropWhile_append_stop m.name_upper isUpper_colon,
      suffix_some (m.suffix_ne s hs) (m.suffix_chars s hs), hname]
    simp [MethodText.string, MethodText.text, hname, hs, partAfter]

theorem suffix_sound (cs : List Char) : ∃ o : Option (List Char), (∀ s ∈ o, s ≠ []) ∧
    (∀ s ∈ o, ∀ c ∈ s, isUpperOrDigit c) ∧ (suffix cs).1 = partAfter ':' o ∧
    cs = (suffix cs).1 ++ (suffix cs).2 := by
  have hnone : ∃ o : Option (List Char), (∀ s ∈ o, s ≠ []) ∧
      (∀ s ∈ o, ∀ c ∈ s, isUpperOrDigit c) ∧ [] = partAfter ':' o ∧ cs = [] ++ cs :=
    ⟨none, by simp, by simp, rfl, rfl⟩
  unfold suffix
  split
  swap
  · exact hnone
  rename_i cs
  dsimp only
  split
  swap
  · exact hnone
  rename_i c s rest htake hdrop
  refine ⟨some (c :: s), by simp, ?_, by rw [htake]; rfl, ?_⟩
  · rintro _ ⟨⟩
    rw [← htake]
    exact List.all_eq_true.1 List.all_takeWhile
  · rw [List.cons_append, ← hdrop, List.takeWhile_append_dropWhile]

theorem method_sound {cs rest : List Char} {name : { s : String // s ≠ "" }}
    (h : method cs = .ok (name, rest)) :
    ∃ m : MethodText, cs = m.text ++ rest ∧
      (⟨m.string, m.string_ne⟩ : { s : String // s ≠ "" }) = name := by
  rw [method] at h
  split at h
  · cases h
  rename_i c cs' htake
  obtain ⟨o, hne, hchars, hsuffix, hsplit⟩ := suffix_sound (cs.dropWhile isUpper)
  dsimp only at h
  cases h
  have hupper : ∀ x ∈ c :: cs', isUpper x := by
    rw [← htake]
    exact List.all_eq_true.1 List.all_takeWhile
  refine ⟨⟨c :: cs', o, by simp, hupper, hne, hchars⟩, ?_, Subtype.ext ?_⟩
  · rw [MethodText.text, ← hsuffix, List.append_assoc, ← hsplit]
    exact (htake ▸ List.takeWhile_append_dropWhile).symm
  · simp only [MethodText.string, MethodText.text, hsuffix]

theorem literal_sound {c : Char} {cs rest : List Char} {u : Unit}
    (h : literal c cs = .ok (u, rest)) : cs = c :: rest := by
  cases cs with
  | nil => cases h
  | cons c' cs =>
    rw [literal] at h
    split at h
    · rename_i hc
      cases h
      rw [hc]
    · cases h

theorem literal_complete (c : Char) (rest : List Char) :
    literal c (c :: rest) = .ok ((), rest) := by
  simp [literal]

/-! ## Values -/

theorem provenance_complete (o : Option (MethodText × DateText)) :
    provenance (Sentence.originText o) = .ok (Sentence.originValue o, []) := by
  cases o with
  | none => rfl
  | some o =>
    obtain ⟨m, d⟩ := o
    have htext : Sentence.originText (some (m, d)) =
        '[' :: (m.text ++ ':' :: (d.text ++ [']'])) := by
      simp [Sentence.originText, partAfter]
    have hdate : date (d.text ++ [']']) = .ok (d.value, [']']) := date_complete d (by simp)
    rw [htext, provenance, method_complete m d rfl]
    simp only [Except.ok_bind, literal_complete, hdate]
    rfl

theorem provenance_sound {cs rest : List Char} {p : Option Provenance}
    (h : provenance cs = .ok (p, rest)) :
    ∃ o, cs = Sentence.originText o ++ rest ∧ Sentence.originValue o = p := by
  unfold provenance at h
  split at h
  · obtain ⟨⟨name, cs₁⟩, hm, h⟩ := Except.bind_eq_ok_iff.1 h
    obtain ⟨m, rfl, rfl⟩ := method_sound hm
    obtain ⟨⟨u, cs₂⟩, hl, h₁⟩ := Except.bind_eq_ok_iff.1 h
    obtain rfl := literal_sound hl
    obtain ⟨⟨x, cs₃⟩, hd, h₂⟩ := Except.bind_eq_ok_iff.1 h₁
    obtain ⟨d, rfl, rfl⟩ := date_sound hd
    obtain ⟨⟨u, cs₄⟩, hl, h₃⟩ := Except.bind_eq_ok_iff.1 h₂
    obtain rfl := literal_sound hl
    cases h₃
    exact ⟨some (m, d), by simp [Sentence.originText, partAfter], rfl⟩
  · cases h
    exact ⟨none, rfl, rfl⟩

theorem value_complete (s : Sentence) : value s.text = .ok (s.value, []) := by
  have hdate : (Sentence.originText s.origin).head? ≠ some '-' := by
    cases s.origin <;> simp [Sentence.originText, partAfter]
  rw [Sentence.text, List.append_assoc, List.append_assoc, List.cons_append, value,
    symbol_complete s.readable]
  simp only [Except.ok_bind, amount_complete, literal_complete, date_complete s.date hdate,
    provenance_complete]
  rfl

theorem value_sound {cs rest : List Char} {v : Value} (h : value cs = .ok (v, rest)) :
    ∃ s : Sentence, cs = s.text ++ rest ∧ s.value = v := by
  obtain ⟨⟨c, cs₁⟩, hs, h₁⟩ := Except.bind_eq_ok_iff.1 h
  obtain ⟨hc, rfl⟩ := symbol_sound hs
  obtain ⟨⟨x, cs₂⟩, ha, h₂⟩ := Except.bind_eq_ok_iff.1 h₁
  obtain ⟨a, rfl, rfl⟩ := amount_sound ha
  obtain ⟨⟨u, cs₃⟩, hl, h₃⟩ := Except.bind_eq_ok_iff.1 h₂
  obtain rfl := literal_sound hl
  obtain ⟨⟨y, cs₄⟩, hd, h₄⟩ := Except.bind_eq_ok_iff.1 h₃
  obtain ⟨d, rfl, rfl⟩ := date_sound hd
  obtain ⟨⟨p, cs₅⟩, hp, h₅⟩ := Except.bind_eq_ok_iff.1 h₄
  obtain ⟨o, rfl, rfl⟩ := provenance_sound hp
  cases h₅
  exact ⟨⟨c, a, d, o, hc⟩, by simp [Sentence.text], rfl⟩

/-- The value of a text is that of its derivation. -/
theorem scan_eq_ok_iff {text : String} {v : Value} :
    scan text = .ok v ↔ ∃ s : Sentence, s.text = text.toList ∧ s.value = v := by
  constructor
  · intro h
    rw [scan, scanAs] at h
    split at h
    · rename_i v' hv
      cases h
      obtain ⟨s, hs, rfl⟩ := value_sound hv
      exact ⟨s, by rw [hs, List.append_nil], rfl⟩
    · cases h
    · cases h
  · rintro ⟨s, hs, rfl⟩
    rw [scan, scanAs, ← hs, value_complete]

/-- The scanner commits to what it reads and never goes back, and yet it loses no text of the
grammar and adds none: it succeeds exactly on the texts that have a derivation, with the value that
the derivation denotes, and there is only one. -/
theorem scan_ok_iff_derivable (text : String) :
    ((∃ v, scan text = .ok v) ↔ ∃ s : Sentence, s.text = text.toList) ∧
      ∀ s : Sentence, s.text = text.toList →
        scan text = .ok s.value ∧ ∀ s' : Sentence, s'.text = text.toList → s' = s := by
  refine ⟨⟨?_, ?_⟩, fun s hs => ⟨scan_eq_ok_iff.2 ⟨s, hs, rfl⟩, fun s' hs' => ?_⟩⟩
  · rintro ⟨v, hv⟩
    obtain ⟨s, hs, -⟩ := scan_eq_ok_iff.1 hv
    exact ⟨s, hs⟩
  · rintro ⟨s, hs⟩
    exact ⟨s.value, scan_eq_ok_iff.2 ⟨s, hs, rfl⟩⟩
  · exact Sentence.text_injective (hs'.trans hs.symm)

end DatedMoney.Notation
