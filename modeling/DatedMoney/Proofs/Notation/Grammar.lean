import DatedMoney.Notation.Scanner
import Mathlib.Data.List.Basic

/-!
# The grammar of notation

A `Sentence` is a derivation in the grammar that `Notation.Scanner` states: it says which text each
part stands for, and nothing about how the parts are found. `Sentence.text` is the text derived and
`Sentence.value` what it denotes. Main statement: no text has two derivations
(`Sentence.text_injective`).
-/

namespace DatedMoney.Notation

/-! ## Parts -/

/-- A part that may be left out, and the character that announces it. -/
def partAfter (c : Char) : Option (List Char) → List Char
  | none => []
  | some cs => c :: cs

/-- A row of as many digits as the part has. -/
@[ext] structure Numeral (part : Part) where
  chars : List Char
  length_eq : chars.length = part.width
  digits : ∀ c ∈ chars, Text.isDigit c

def Numeral.value (n : Numeral part) : Nat := Nat.ofDigitChars 10 n.chars 0

/-- A numeral whose value stands between two bounds. -/
structure BoundedNumeral (part : Part) (low high : Int) extends Numeral part where
  low_le : low ≤ toNumeral.value
  le_high : toNumeral.value ≤ high

def BoundedNumeral.bounded (n : BoundedNumeral part low high) : Bounded low high :=
  ⟨n.value, n.low_le, n.le_high⟩

/-- `date = 4 digits [ "-" 2 digits [ "-" 2 digits ] ]` -/
inductive DateText where
  | yearly (y : Numeral .year)
  | monthly (y : Numeral .year) (m : BoundedNumeral .month 1 12)
  | daily (y : Numeral .year) (m : BoundedNumeral .month 1 12) (d : BoundedNumeral .day 1 31)

namespace DateText

def text : DateText → List Char
  | yearly y => y.chars
  | monthly y m => y.chars ++ '-' :: m.chars
  | daily y m d => y.chars ++ '-' :: (m.chars ++ '-' :: d.chars)

def value : DateText → Date
  | yearly y => .yearly y.value
  | monthly y m => .monthly y.value m.bounded
  | daily y m d => .daily y.value m.bounded d.bounded

end DateText

/-- `amount = digit { digit | "," } [ "." 2 digits ]` -/
@[ext] structure AmountText where
  first : Char
  more : List Char
  cents : Option (Numeral .fraction)
  first_digit : Text.isDigit first
  more_digits : ∀ c ∈ more, isDigitOrComma c

namespace AmountText

def whole (a : AmountText) : List Char := a.first :: a.more

def text (a : AmountText) : List Char := a.whole ++ partAfter '.' (a.cents.map (·.chars))

/-- The exact decimal of the digits, without the commas. -/
def value (a : AmountText) : Decimal :=
  let ds := a.whole.filter (· ≠ ',')
  match a.cents with
  | none => .finite false (Nat.ofDigitChars 10 ds 0) 0
  | some f => .finite false (Nat.ofDigitChars 10 (ds ++ f.chars) 0) (-2)

theorem value_cents {a : AmountText} {f : Numeral .fraction} (h : a.cents = some f) :
    a.value =
      .finite false (Nat.ofDigitChars 10 (a.whole.filter (· ≠ ',')) 0 * 100 + f.value) (-2) := by
  simp only [value, h]
  rw [Nat.ofDigitChars_append, Nat.ofDigitChars_eq_ofDigitChars_zero, f.length_eq, Numeral.value,
    Nat.mul_comm]
  rfl

end AmountText

/-- `method = upper { upper } [ ":" (upper | digit) { upper | digit } ]` -/
@[ext] structure MethodText where
  name : List Char
  suffix : Option (List Char)
  name_ne : name ≠ []
  name_upper : ∀ c ∈ name, isUpper c
  suffix_ne : ∀ s ∈ suffix, s ≠ []
  suffix_chars : ∀ s ∈ suffix, ∀ c ∈ s, isUpperOrDigit c

namespace MethodText

def text (m : MethodText) : List Char := m.name ++ partAfter ':' m.suffix

def string (m : MethodText) : String := .ofList m.text

theorem text_ne (m : MethodText) : m.text ≠ [] := by
  simp [text, m.name_ne]

theorem string_ne (m : MethodText) : m.string ≠ "" := by
  rw [string, ← String.toList_inj.ne, String.toList_ofList]
  exact m.text_ne

end MethodText

/-- `value = symbol amount "@" date [ "[" method ":" date "]" ]` -/
@[ext] structure Sentence where
  currency : Currency
  amount : AmountText
  date : DateText
  origin : Option (MethodText × DateText)
  readable : currency ∈ Currency.readable

namespace Sentence

def originText (o : Option (MethodText × DateText)) : List Char :=
  partAfter '[' (o.map fun (m, d) => m.text ++ ':' :: d.text ++ [']'])

def originValue (o : Option (MethodText × DateText)) : Option Provenance :=
  o.map fun (m, d) => ⟨m.string, d.value, m.string_ne⟩

def text (s : Sentence) : List Char :=
  s.currency.symbol.toList ++ s.amount.text ++ '@' :: s.date.text ++ originText s.origin

def value (s : Sentence) : Value where
  amount := s.amount.value
  currency := s.currency
  date := s.date.value
  provenance := originValue s.origin

end Sentence

/-! ## Which characters occur where -/

theorem isDigitOrComma_of_isDigit {c : Char} (h : Text.isDigit c) : isDigitOrComma c := by
  simp [isDigitOrComma, h]

theorem isUpperOrDigit_of_isDigit {c : Char} (h : Text.isDigit c) : isUpperOrDigit c := by
  simp [isUpperOrDigit, h]

theorem DateText.mem_text {d : DateText} {c : Char} (h : c ∈ d.text) :
    Text.isDigit c ∨ c = '-' := by
  cases d with
  | yearly y => exact .inl (y.digits c h)
  | monthly y m =>
    rcases List.mem_append.1 h with h | h
    · exact .inl (y.digits c h)
    · exact (List.mem_cons.1 h).symm.imp_left (m.digits c)
  | daily y m d =>
    rcases List.mem_append.1 h with h | h
    · exact .inl (y.digits c h)
    rcases List.mem_cons.1 h with h | h
    · exact .inr h
    rcases List.mem_append.1 h with h | h
    · exact .inl (m.digits c h)
    · exact (List.mem_cons.1 h).symm.imp_left (d.digits c)

theorem DateText.notMem_text {d : DateText} {c : Char} (h : Text.isDigit c = false) (h' : c ≠ '-') :
    c ∉ d.text := by
  intro hc
  rcases mem_text hc with hc | hc
  · simp [h] at hc
  · exact h' hc

theorem AmountText.mem_whole {a : AmountText} {c : Char} (h : c ∈ a.whole) : isDigitOrComma c := by
  rcases List.mem_cons.1 h with rfl | h
  · exact isDigitOrComma_of_isDigit a.first_digit
  · exact a.more_digits c h

/-- The comma is no digit, so the first character stays. -/
theorem AmountText.filter_whole (a : AmountText) :
    a.whole.filter (· ≠ ',') = a.first :: a.more.filter (· ≠ ',') := by
  have hfirst : a.first ≠ ',' := fun h => absurd (h ▸ a.first_digit) (by decide)
  exact List.filter_cons_of_pos (decide_eq_true hfirst)

theorem AmountText.isDigit_of_mem_filter {a : AmountText} {c : Char}
    (h : c ∈ a.whole.filter (· ≠ ',')) : Text.isDigit c := by
  obtain ⟨h, hcomma⟩ := List.mem_filter.1 h
  simpa [isDigitOrComma, of_decide_eq_true hcomma] using mem_whole h

theorem AmountText.mem_text {a : AmountText} {c : Char} (h : c ∈ a.text) :
    isDigitOrComma c ∨ c = '.' := by
  rcases List.mem_append.1 h with h | h
  · exact .inl (mem_whole h)
  cases hf : a.cents with
  | none => simp [hf, partAfter] at h
  | some f =>
    rw [hf] at h
    rcases List.mem_cons.1 h with h | h
    · exact .inr h
    · exact .inl (isDigitOrComma_of_isDigit (f.digits c h))

/-! ## Unambiguity -/

/-- Two lists split at the first occurrence of an element are split alike. -/
theorem append_cons_inj {xs xs' ys ys' : List Char} {c : Char} (h : c ∉ xs) (h' : c ∉ xs')
    (heq : xs ++ c :: ys = xs' ++ c :: ys') : xs = xs' ∧ ys = ys' := by
  induction xs generalizing xs' with
  | nil =>
    cases xs' with
    | nil => exact ⟨rfl, List.tail_eq_of_cons_eq heq⟩
    | cons x xs' =>
      obtain ⟨rfl, -⟩ := List.cons.inj heq
      exact absurd List.mem_cons_self h'
  | cons x xs ih =>
    cases xs' with
    | nil =>
      obtain ⟨rfl, -⟩ := List.cons.inj heq
      exact absurd List.mem_cons_self h
    | cons x' xs' =>
      obtain ⟨rfl, htail⟩ := List.cons.inj heq
      obtain ⟨rfl, rfl⟩ :=
        ih (List.not_mem_of_not_mem_cons h) (List.not_mem_of_not_mem_cons h') htail
      exact ⟨rfl, rfl⟩

/-- The same for the last occurrence. -/
theorem append_cons_inj_last {xs xs' ys ys' : List Char} {c : Char} (h : c ∉ ys) (h' : c ∉ ys')
    (heq : xs ++ c :: ys = xs' ++ c :: ys') : xs = xs' ∧ ys = ys' := by
  have heq := congrArg List.reverse heq
  simp only [List.reverse_append, List.reverse_cons, List.append_assoc,
    List.singleton_append] at heq
  obtain ⟨hy, hx⟩ := append_cons_inj (by simpa using h) (by simpa using h') heq
  exact ⟨List.reverse_injective hx, List.reverse_injective hy⟩

theorem append_partAfter_inj {xs xs' : List Char} {o o' : Option (List Char)} {c : Char}
    (h : c ∉ xs) (h' : c ∉ xs') (heq : xs ++ partAfter c o = xs' ++ partAfter c o') :
    xs = xs' ∧ o = o' := by
  cases o with
  | none =>
    cases o' with
    | none => exact ⟨by simpa [partAfter] using heq, rfl⟩
    | some ys' =>
      rw [partAfter, List.append_nil] at heq
      exact absurd (heq ▸ List.mem_append_right _ List.mem_cons_self) h
  | some ys =>
    cases o' with
    | none =>
      rw [partAfter, partAfter, List.append_nil] at heq
      exact absurd (heq ▸ List.mem_append_right _ List.mem_cons_self) h'
    | some ys' =>
      obtain ⟨hx, hy⟩ := append_cons_inj h h' heq
      exact ⟨hx, congrArg some hy⟩

/-- No symbol is the beginning of another. -/
theorem symbol_append_inj {c c' : Currency} (h : c ∈ Currency.readable)
    (h' : c' ∈ Currency.readable) {xs xs' : List Char}
    (heq : c.symbol.toList ++ xs = c'.symbol.toList ++ xs') :
    c = c' ∧ xs = xs' := by
  cases c <;> cases c' <;> simp_all [Currency.symbol, Currency.readable]

theorem BoundedNumeral.ext {n n' : BoundedNumeral part low high} (h : n.chars = n'.chars) :
    n = n' := by
  obtain ⟨⟨_, _, _⟩, _, _⟩ := n
  obtain ⟨⟨_, _, _⟩, _, _⟩ := n'
  cases h
  rfl

theorem DateText.length_text (d : DateText) :
    d.text.length = match d with | yearly _ => 4 | monthly .. => 7 | daily .. => 10 := by
  cases d <;> simp [text, Numeral.length_eq, Part.width]

theorem DateText.text_injective : Function.Injective DateText.text := by
  intro d d' h
  have hlen := congrArg List.length h
  rw [length_text, length_text] at hlen
  cases d <;> cases d' <;> simp only [text, Nat.reduceEqDiff] at h hlen
  case yearly.yearly y y' => rw [Numeral.ext h]
  case monthly.monthly y m y' m' =>
    obtain ⟨hy, hm⟩ := List.append_inj h (y.length_eq.trans y'.length_eq.symm)
    rw [Numeral.ext hy, BoundedNumeral.ext (List.tail_eq_of_cons_eq hm)]
  case daily.daily y m d y' m' d' =>
    obtain ⟨hy, h⟩ := List.append_inj h (y.length_eq.trans y'.length_eq.symm)
    obtain ⟨hm, hd⟩ :=
      List.append_inj (List.tail_eq_of_cons_eq h) (m.length_eq.trans m'.length_eq.symm)
    rw [Numeral.ext hy, BoundedNumeral.ext hm, BoundedNumeral.ext (List.tail_eq_of_cons_eq hd)]

theorem AmountText.text_injective : Function.Injective AmountText.text := by
  intro a a' h
  have hpoint (a : AmountText) : '.' ∉ a.whole := fun h => absurd (mem_whole h) (by decide)
  obtain ⟨hw, hc⟩ := append_partAfter_inj (hpoint a) (hpoint a') h
  obtain ⟨hf, hm⟩ := List.cons.inj hw
  exact AmountText.ext hf hm (Option.map_injective (fun _ _ => Numeral.ext) hc)

theorem MethodText.text_injective : Function.Injective MethodText.text := by
  intro m m' h
  have hcolon (m : MethodText) : ':' ∉ m.name := fun h => absurd (m.name_upper _ h) (by decide)
  obtain ⟨hn, hs⟩ := append_partAfter_inj (hcolon m) (hcolon m') h
  exact MethodText.ext hn hs

namespace Sentence

/-- A method may hold colons, but the date after it holds none. -/
theorem origin_inj {m m' : MethodText} {d d' : DateText}
    (h : m.text ++ ':' :: d.text = m'.text ++ ':' :: d'.text) : m = m' ∧ d = d' := by
  have hcolon (d : DateText) : ':' ∉ d.text := DateText.notMem_text (by decide) (by decide)
  obtain ⟨hm, hd⟩ := append_cons_inj_last (hcolon d) (hcolon d') h
  exact ⟨MethodText.text_injective hm, DateText.text_injective hd⟩

/-- What stands between the brackets determines the source. -/
theorem bracket_injective :
    Function.Injective fun (m, d) => MethodText.text m ++ ':' :: DateText.text d ++ [']'] := by
  rintro ⟨m, d⟩ ⟨m', d'⟩ h
  obtain ⟨rfl, rfl⟩ := origin_inj (List.append_cancel_right h)
  rfl

/-- What stands before the date determines currency and amount. -/
theorem amount_inj {s s' : Sentence}
    (h : s.currency.symbol.toList ++ s.amount.text = s'.currency.symbol.toList ++ s'.amount.text) :
    s.currency = s'.currency ∧ s.amount = s'.amount := by
  obtain ⟨hc, ha⟩ := symbol_append_inj s.readable s'.readable h
  exact ⟨hc, AmountText.text_injective ha⟩

theorem notMem_start {c : Char} (hsymbol : ∀ x : Currency, c ∉ x.symbol.toList)
    (hamount : isDigitOrComma c = false) (hpoint : c ≠ '.') (s : Sentence) :
    c ∉ s.currency.symbol.toList ++ s.amount.text := by
  intro h
  rcases List.mem_append.1 h with h | h
  · exact hsymbol _ h
  · rcases AmountText.mem_text h with h | h
    · exact Bool.eq_false_iff.1 hamount h
    · exact hpoint h

theorem at_notMem (s : Sentence) : '@' ∉ s.currency.symbol.toList ++ s.amount.text :=
  s.notMem_start (fun x => by cases x <;> decide) (by decide) (by decide)

/-- A text has at most one derivation. -/
theorem text_injective : Function.Injective text := by
  intro s s' h
  rw [text, text, List.append_assoc, List.append_assoc _ (_ :: _), List.cons_append,
    List.cons_append] at h
  obtain ⟨ha, h⟩ := append_cons_inj s.at_notMem s'.at_notMem h
  obtain ⟨hc, ha⟩ := amount_inj ha
  have hbracket (d : DateText) : '[' ∉ d.text := DateText.notMem_text (by decide) (by decide)
  obtain ⟨hd, ho⟩ := append_partAfter_inj (hbracket s.date) (hbracket s'.date) h
  exact Sentence.ext hc ha (DateText.text_injective hd) (Option.map_injective bracket_injective ho)

end Sentence
end DatedMoney.Notation
