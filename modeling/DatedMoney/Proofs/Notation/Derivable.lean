import DatedMoney.Proofs.Notation.Fields

/-!
# The fields that a derivation denotes

The text of a sentence is taken apart into the fields that the sentence denotes
(`readFields_complete`), provided that the reader of decimals takes the digits of its amount. It
takes them in every text of ordinary length (`Sentence.inReach`). Main statement: these are the only
texts that have fields.
-/

namespace DatedMoney.Notation
open Decimal

/-- The numbers of a date as they stand in the text. -/
def DateText.plain : DateText → PlainDate
  | yearly y => ⟨y.value, none, none⟩
  | monthly y m => ⟨y.value, some m.value, none⟩
  | daily y m d => ⟨y.value, some m.value, some d.value⟩

theorem DateText.ofDate_value (d : DateText) : PlainDate.ofDate d.value = d.plain := by
  cases d <;> rfl

/-- Whether the digits of an amount, without the commas, can be read as a decimal. -/
def AmountText.InReach (a : AmountText) : Prop :=
  (ofText? (.ofList (a.whole.filter (· ≠ ',') ++ partAfter '.' (a.cents.map (·.chars))))).isSome

/-- The fields that a sentence denotes. -/
def Sentence.fields (s : Sentence) : Fields where
  amount := s.amount.value
  currency := s.currency
  date := s.date.plain
  method? := s.origin.map (·.1.string)
  source? := s.origin.map (·.2.plain)

/-! ## Amounts -/

namespace AmountText

theorem inReach_iff {a : AmountText} :
    a.InReach ↔ ofText? (.ofList a.number.text) = some a.value := by
  rw [InReach, ← text_number]
  obtain h | ⟨-, h⟩ := a.ofText?_number <;> simp [h]

theorem plainAmount_complete {a : AmountText} (h : a.InReach) (rest : List Char) :
    plainAmount (a.text ++ '@' :: rest) = .ok (a.value, '@' :: rest) := by
  rw [(a.leads_at rest).plainAmount_eq, inReach_iff.1 h]
  rfl

theorem inReach_of_plainAmount {a : AmountText} {rest : List Char} {p : Decimal × List Char}
    (h : plainAmount (a.text ++ '@' :: rest) = .ok p) : a.InReach := by
  rw [(a.leads_at rest).plainAmount_eq] at h
  rw [inReach_iff]
  obtain hread | ⟨-, hread⟩ := a.ofText?_number
  · exact hread
  · rw [hread] at h
    cases h

end AmountText

/-! ## Sentences -/

namespace Sentence

theorem fields_complete {s : Sentence} (h : s.amount.InReach) :
    Notation.fields s.text = .ok (s.fields, []) := by
  have hdate : (originText s.origin).head? ≠ some '-' := by
    cases s.origin <;> simp [originText, partAfter]
  rw [text, List.append_assoc, List.append_assoc, List.cons_append, Notation.fields,
    symbol_complete s.readable]
  simp only [Except.ok_bind, AmountText.plainAmount_complete h, literal_complete, plainDate_eq,
    date_complete s.date hdate, plainOrigin_eq, provenance_complete, Except.map_ok, Prod.map, id,
    DateText.ofDate_value]
  rw [Sentence.fields]
  cases s.origin with
  | none => rfl
  | some o =>
    rw [originValue, Option.map_some, Option.map_some, DateText.ofDate_value]
    rfl

theorem inReach_of_fields {s : Sentence} {p : Fields × List Char}
    (h : Notation.fields s.text = .ok p) : s.amount.InReach := by
  rw [text, List.append_assoc, List.append_assoc, List.cons_append, Notation.fields,
    symbol_complete s.readable, Except.ok_bind] at h
  obtain ⟨p, hp, -⟩ := Except.bind_eq_ok_iff.1 h
  exact AmountText.inReach_of_plainAmount hp

/-- Only a very long text can hold digits out of reach. -/
theorem inReach {s : Sentence} (h : s.text.length ≤ 10 ^ 18) : s.amount.InReach := by
  rw [AmountText.inReach_iff]
  refine s.amount.ofText?_number.resolve_right fun hlong => ?_
  have hlength : s.amount.text.length ≤ s.text.length := by
    simp only [text, List.length_append]
    omega
  omega

end Sentence

theorem readFields_complete {text : String} {s : Sentence} (hs : s.text = text.toList)
    (h : s.amount.InReach) : readFields text = .ok s.fields := by
  rw [readFields, scanAs, ← hs, Sentence.fields_complete h]

theorem inReach_of_readFields {text : String} {s : Sentence} (hs : s.text = text.toList)
    {f : Fields} (h : readFields text = .ok f) : s.amount.InReach := by
  rw [readFields, scanAs, ← hs] at h
  split at h
  · rename_i heq
    exact Sentence.inReach_of_fields heq
  · cases h
  · cases h

/-- A text has fields exactly if it has a derivation and the digits of its amount can be read, which
only a text of more than `10 ^ 18` characters can prevent. The derivation is unique, and the fields
are those that it denotes, with the amount as the exact decimal of its digits. In the same way it
denotes the value that the text is read as in one step, however long it is. -/
theorem readFields_ok_iff_derivable (text : String) :
    ((∃ f, readFields text = .ok f) ↔
      ∃ s : Sentence, s.text = text.toList ∧ s.amount.InReach) ∧
      ∀ s : Sentence, s.text = text.toList →
        (text.length ≤ 10 ^ 18 → s.amount.InReach) ∧
        (s.amount.InReach → readFields text = .ok s.fields) ∧ scan text = .ok s.value ∧
        ∀ s' : Sentence, s'.text = text.toList → s' = s := by
  refine ⟨⟨?_, ?_⟩, fun s hs => ?_⟩
  · rintro ⟨f, hf⟩
    obtain ⟨v, hv, -, -⟩ := scan_of_readFields hf
    obtain ⟨s, hs, -⟩ := scan_eq_ok_iff.1 hv
    exact ⟨s, hs, inReach_of_readFields hs hf⟩
  · rintro ⟨s, hs, h⟩
    exact ⟨s.fields, readFields_complete hs h⟩
  · obtain ⟨hscan, hunique⟩ := (scan_ok_iff_derivable text).2 s hs
    refine ⟨fun hlength => Sentence.inReach ?_, readFields_complete hs, hscan, hunique⟩
    rwa [hs, String.length_toList]

/-- Commas anywhere, a suffix that might be a year, and the year after it. -/
theorem readFields_ok_iff_derivable_suffix :
    ∃ s : Sentence, s.text = "C$1,,0.50@2024-02[CPI:1970:1950]".toList ∧
      readFields "C$1,,0.50@2024-02[CPI:1970:1950]" = .ok s.fields ∧
      s.fields = ⟨.finite false 1050 (-2), .cad, ⟨2024, some 2, none⟩, some "CPI:1970",
        some ⟨1950, none, none⟩⟩ := by
  have hread : readFields "C$1,,0.50@2024-02[CPI:1970:1950]" = .ok ⟨.finite false 1050 (-2), .cad,
      ⟨2024, some 2, none⟩, some "CPI:1970", some ⟨1950, none, none⟩⟩ := by rfl
  obtain ⟨hderivable, hfields⟩ :=
    readFields_ok_iff_derivable "C$1,,0.50@2024-02[CPI:1970:1950]"
  obtain ⟨s, hs, hreach⟩ := hderivable.1 ⟨_, hread⟩
  obtain ⟨-, hdenoted, -, -⟩ := hfields s hs
  have hsame := (hdenoted hreach).symm.trans hread
  exact ⟨s, hs, hdenoted hreach, Except.ok.inj hsame⟩

end DatedMoney.Notation
