import DatedMoney.Notation.Fields
import DatedMoney.Proofs.Decimal.Printed
import DatedMoney.Proofs.Notation.Legible

/-!
# Notation in two steps

The fields of a text are those of its value (`readFields_eq`), and the fields of a value pass every
check (`Fields.value_ofValue`). Of the steps by which a text is taken apart into fields only one can
fail where the scanner of values does not: the reader of decimals, whose reach ends at a number of
digits that the scanner does not know.
-/

namespace DatedMoney.Notation
open Checking Decimal

namespace PlainDate

def ofDate (d : Date) : PlainDate := ⟨d.year, d.month?.map (·.val), d.day?.map (·.val)⟩

theorem loose_ofDate (d : Date) : (ofDate d).loose = .ofDate d := rfl

end PlainDate

namespace Fields

def ofValue (v : Value) : Fields where
  amount := v.amount
  currency := v.currency
  date := .ofDate v.date
  method? := v.provenance.map (·.method)
  source? := v.provenance.map fun p => .ofDate p.source

theorem value_ofValue {v : Value} (h : v.amount.isFinite) : (ofValue v).value = .ok v := by
  obtain ⟨a, c, d, p⟩ := v
  cases p with
  | none => exact value_ofDate h c d none
  | some p =>
    simp only [ofValue, value, Option.map_some, PlainDate.loose_ofDate,
      LooseProvenance.check_ofDate p.method_ne]
    exact value_ofDate h c d p

end Fields

/-! ## Dates -/

theorem plainBounded_eq (part : Part) (low high : Nat) (cs : List Char) :
    plainBounded part low high cs =
      Prod.map Bounded.val id <$> (bounded part cs : Except _ (Bounded low high × _)) := by
  rw [plainBounded, bounded, map_bind]
  refine bind_congr fun p => ?_
  obtain ⟨n, cs⟩ := p
  by_cases h : low ≤ n ∧ n ≤ high
  · have h' : (low : Int) ≤ n ∧ (n : Int) ≤ high := by omega
    simp only [if_pos h, Bounded.ofInt?, dif_pos h']
    rfl
  · have h' : ¬((low : Int) ≤ n ∧ (n : Int) ≤ high) := by omega
    simp only [if_neg h, Bounded.ofInt?, dif_neg h']
    rfl

theorem plainDate_eq (cs : List Char) :
    plainDate cs = Prod.map PlainDate.ofDate id <$> date cs := by
  rw [plainDate, date, map_bind]
  refine bind_congr fun p => ?_
  obtain ⟨y, cs⟩ := p
  dsimp only
  split
  · simp only [plainBounded_eq, bind_map_left, map_bind]
    refine bind_congr fun p => ?_
    obtain ⟨m, cs⟩ := p
    dsimp only [Prod.map, id]
    split
    · simp only [map_bind]
      rfl
    · simp only [map_pure]
      rfl
  · simp only [map_pure]
    rfl

theorem plainOrigin_eq (cs : List Char) :
    plainOrigin cs =
      Prod.map (Option.map fun p => (p.method, PlainDate.ofDate p.source)) id <$> provenance cs := by
  unfold plainOrigin provenance
  split
  · simp only [plainDate_eq, bind_map_left, map_bind]
    rfl
  · simp only [Except.map_ok]
    rfl

/-! ## Amounts -/

namespace AmountText

/-- The amount as a number, with the commas left out. -/
def number (a : AmountText) : NumberText where
  whole := a.whole.filter (· ≠ ',')
  fraction := a.cents.map (·.chars)
  exponent := none
  whole_ne := by
    rw [filter_whole]
    exact List.cons_ne_nil _ _
  whole_digits := fun _ => isDigit_of_mem_filter
  fraction_digits := by
    intro f hf
    obtain ⟨n, -, rfl⟩ := Option.mem_map.1 hf
    exact n.digits

theorem text_number (a : AmountText) :
    a.number.text = a.whole.filter (· ≠ ',') ++ partAfter '.' (a.cents.map (·.chars)) := by
  rw [NumberText.text, number, Option.map_none, partAfter, List.append_nil]

theorem length_number (a : AmountText) : a.number.text.length ≤ a.text.length := by
  rw [text_number, text, List.length_append, List.length_append]
  exact Nat.add_le_add_right (List.length_filter_le ..) _

theorem value_eq_number (a : AmountText) :
    a.value = .finite false a.number.coefficient (-a.number.places.length) := by
  obtain ⟨first, more, cents, hfirst, hmore⟩ := a
  cases cents with
  | none =>
    rw [NumberText.coefficient]
    simp only [value, number, NumberText.places, Option.map_none, Option.getD_none, List.append_nil]
    rfl
  | some f =>
    have hlength : f.chars.length = 2 := f.length_eq
    rw [NumberText.coefficient]
    simp only [value, number, NumberText.places, Option.map_some, Option.getD_some, hlength]
    rfl

/-- The digits of an amount are read as what they denote, unless there are too many of them. -/
theorem ofText?_number (a : AmountText) :
    ofText? (.ofList a.number.text) = some a.value ∨
      10 ^ 18 < a.text.length ∧ ofText? (.ofList a.number.text) = none := by
  rw [value_eq_number]
  exact (a.number.ofText?_text rfl).imp_right fun h => ⟨h.1.trans_le a.length_number, h.2⟩

/-- The plain scanner takes in the same text, and only the reader of decimals can refuse it. -/
theorem Leads.plainAmount_eq {a : AmountText} {cs rest : List Char} (h : a.Leads cs rest) :
    plainAmount cs = (ofText? (.ofList a.number.text)).elim
      (.error (.number (.ofList a.text), rest)) fun x => .ok (x, rest) := by
  rw [plainAmount, h.first, Bool.not_true, if_neg Bool.false_ne_true, h.whole, h.afterWhole,
    text_number, text]
  cases hcents : a.cents with
  | none =>
    simp only [Option.map_none, partAfter, List.nil_append]
    split
    · exact absurd rfl (h.point hcents)
    · simp only [Except.ok_bind, Except.pure_eq_ok]
      cases ofText? (.ofList (a.whole.filter (· ≠ ',') ++ [])) <;> rfl
  | some f =>
    have htake : (f.chars ++ rest).take Part.fraction.width = f.chars :=
      List.take_left' f.length_eq
    simp only [Option.map_some, partAfter, List.cons_append, digits_complete, htake,
      Except.ok_bind, Except.pure_eq_ok]
    cases ofText? (.ofList (a.whole.filter (· ≠ ',') ++ '.' :: f.chars)) <;> rfl

end AmountText

/-- A part that cannot be taken in because its digits are out of the reach of the reader. -/
def OutOfReach (cs : List Char) (r : Except (Expectation × List Char) α) : Prop :=
  10 ^ 18 < cs.length ∧ ∃ text rest, r = .error (.number text, rest)

theorem plainAmount_eq (cs : List Char) :
    plainAmount cs = amount cs ∨ OutOfReach cs (plainAmount cs) := by
  by_cases hfirst : cs.head?.any Text.isDigit
  · obtain ⟨cs', e, hpoint, hf⟩ | ⟨a, rest, hleads⟩ := AmountText.exists_leads hfirst
    · left
      rw [plainAmount, amount, hfirst, hpoint]
      simp only [hf, Except.error_bind, Bool.not_true, Bool.false_eq_true, if_false, if_true]
    · rw [hleads.amount_eq, hleads.plainAmount_eq]
      obtain hread | ⟨hlong, hread⟩ := a.ofText?_number
      · exact .inl (by rw [hread]; rfl)
      · right
        rw [hread]
        refine ⟨hlong.trans_le ?_, _, rest, rfl⟩
        rw [hleads.split, List.length_append]
        exact Nat.le_add_right _ _
  · left
    rw [plainAmount, amount, if_neg hfirst, if_pos (by simpa using hfirst)]
    rfl

/-! ## Values -/

theorem fields_eq (cs : List Char) :
    fields cs = Prod.map Fields.ofValue id <$> value cs ∨ OutOfReach cs (fields cs) := by
  rw [fields, value]
  cases hsymbol : symbol cs with
  | error e => exact .inl rfl
  | ok p =>
    obtain ⟨c, cs'⟩ := p
    obtain ⟨-, rfl⟩ := symbol_sound hsymbol
    simp only [Except.ok_bind]
    obtain hamount | ⟨hlength, text, rest, hamount⟩ := plainAmount_eq cs'
    · left
      rw [hamount]
      simp only [plainDate_eq, plainOrigin_eq, bind_map_left, map_bind]
      refine bind_congr fun a => bind_congr fun u => bind_congr fun d => bind_congr fun p => ?_
      obtain ⟨p, cs⟩ := p
      cases p <;> rfl
    · right
      rw [hamount]
      refine ⟨?_, text, rest, rfl⟩
      rw [List.length_append]
      omega

theorem scanAs_map {part : Scan α} {part' : Scan β} {g : α → β} {text : String}
    (h : part' text.toList = Prod.map g id <$> part text.toList) :
    scanAs part' text = g <$> scanAs part text := by
  rw [scanAs, scanAs, h]
  cases part text.toList with
  | error e => rfl
  | ok p =>
    obtain ⟨a, rest⟩ := p
    cases rest <;> rfl

/-! ## The expectations of the scanner -/

/-- A part that does not fail for digits that are no number. -/
def NoNumber (r : Except (Expectation × List Char) α) : Prop :=
  ∀ part rest, r ≠ .error (.number part, rest)

namespace NoNumber

theorem ok (a : α) : NoNumber (.ok a) := by
  intro part rest h
  cases h

theorem error {e : Expectation} (h : ∀ part, e ≠ .number part) (rest : List Char) :
    NoNumber (.error (e, rest) : Except _ α) := by
  intro part rest h'
  cases h'
  exact h part rfl

theorem bind {r : Except (Expectation × List Char) α} {f : α → Except _ β} (h : NoNumber r)
    (hf : ∀ a, NoNumber (f a)) : NoNumber (r >>= f) := by
  cases r with
  | ok a => exact hf a
  | error e =>
    intro part rest h'
    cases h'
    exact h part rest rfl

theorem digits (part : Part) (cs : List Char) : NoNumber (digits part cs) := by
  rw [Notation.digits]
  split
  · exact ok _
  · exact error (fun _ h => by cases h) _

theorem bounded (part : Part) (cs : List Char) :
    NoNumber (bounded part cs : Except _ (Bounded low high × _)) := by
  refine bind (digits part cs) fun n => ?_
  dsimp only
  split
  · exact ok _
  · exact error (fun _ h => by cases h) _

theorem literal (c : Char) (cs : List Char) : NoNumber (literal c cs) := by
  rw [Notation.literal.eq_def]
  split
  · split
    · exact ok _
    · exact error (fun _ h => by cases h) _
  · exact error (fun _ h => by cases h) _

theorem symbol (cs : List Char) : NoNumber (symbol cs) := by
  rw [Notation.symbol]
  split
  · exact ok _
  · exact error (fun _ h => by cases h) _

theorem amount (cs : List Char) : NoNumber (amount cs) := by
  rw [Notation.amount]
  split
  · split
    · exact bind (digits .fraction _) fun _ => ok _
    · exact ok _
  · exact error (fun _ h => by cases h) _

theorem date (cs : List Char) : NoNumber (date cs) := by
  refine bind (digits .year cs) fun y => ?_
  dsimp only
  split
  · refine bind (bounded .month _) fun m => ?_
    split
    · exact bind (bounded .day _) fun _ => ok _
    · exact ok _
  · exact ok _

theorem method (cs : List Char) : NoNumber (method cs) := by
  rw [Notation.method]
  split
  · exact error (fun _ h => by cases h) _
  · exact ok _

theorem provenance (cs : List Char) : NoNumber (provenance cs) := by
  rw [Notation.provenance.eq_def]
  split
  · exact bind (method _) fun _ => bind (literal ':' _) fun _ => bind (date _) fun _ =>
      bind (literal ']' _) fun _ => ok _
  · exact ok _

theorem value (cs : List Char) : NoNumber (value cs) :=
  bind (symbol cs) fun _ => bind (amount _) fun _ => bind (literal '@' _) fun _ =>
    bind (date _) fun _ => bind (provenance _) fun _ => ok _

end NoNumber

theorem scan_ne_number (text part : String) (position : Nat) :
    scan text ≠ .error (.invalidNotation text ⟨.number part, position⟩) := by
  intro h
  rw [scan, scanAs] at h
  have hvalue := NoNumber.value text.toList
  split at h
  · cases h
  · cases h
  · rename_i e rest heq
    cases h
    exact hvalue part rest heq

/-! ## Texts -/

/-- The fields of a text are those of its value. A text whose digits are out of reach is refused,
whether or not it has a value. -/
theorem readFields_eq (text : String) :
    readFields text = Fields.ofValue <$> scan text ∨
      10 ^ 18 < text.length ∧ ∃ part position,
        readFields text = .error (.invalidNotation text ⟨.number part, position⟩) := by
  obtain h | ⟨hlength, part, rest, h⟩ := fields_eq text.toList
  · exact .inl (scanAs_map h)
  · right
    rw [String.length_toList] at hlength
    rw [readFields, scanAs, h]
    exact ⟨hlength, part, _, rfl⟩

/-- The fields of a text make up its value. -/
theorem scan_of_readFields {text : String} {f : Fields} (h : readFields text = .ok f) :
    ∃ v, scan text = .ok v ∧ f = .ofValue v ∧ f.value = .ok v := by
  obtain heq | ⟨-, part, position, heq⟩ := readFields_eq text
  · rw [heq] at h
    cases hscan : scan text with
    | error e =>
      rw [hscan] at h
      cases h
    | ok v =>
      rw [hscan] at h
      cases h
      exact ⟨v, rfl, rfl, Fields.value_ofValue (legible_of_scan hscan).finite⟩
  · rw [heq] at h
    cases h

/-- A text of ordinary length is read in two steps as it is in one. -/
theorem readThrough_eq {text : String} (h : text.length ≤ 10 ^ 18) :
    readThrough text = (scan text).mapError .domain := by
  obtain heq | ⟨hlength, -⟩ := readFields_eq text
  · rw [readThrough, heq]
    cases hscan : scan text with
    | error e => rfl
    | ok v => exact Fields.value_ofValue (legible_of_scan hscan).finite
  · exact absurd hlength (Nat.not_lt.2 h)

/-- Nor is its amount ever refused as a number. -/
theorem readFields_ne_number {text : String} (h : text.length ≤ 10 ^ 18) (part : String)
    (position : Nat) :
    readFields text ≠ .error (.invalidNotation text ⟨.number part, position⟩) := by
  intro hread
  obtain heq | ⟨hlength, -⟩ := readFields_eq text
  · rw [heq] at hread
    cases hscan : scan text with
    | error e =>
      rw [hscan] at hread
      cases hread
      exact scan_ne_number text part position hscan
    | ok v =>
      rw [hscan] at hread
      cases hread
  · exact absurd hlength (Nat.not_lt.2 h)

end DatedMoney.Notation
