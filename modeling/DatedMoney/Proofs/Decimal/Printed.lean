import DatedMoney.Decimal.Reader
import DatedMoney.Proofs.Decimal.Cents
import DatedMoney.Proofs.Notation.Grammar
import DatedMoney.Proofs.Text.Numeral

/-!
# Reading the exact form

The exact form of a finite number is read as that very number, with its coefficient, its exponent
and its sign, if its digits are within the reader's reach (`ofText?_toText`).
-/

namespace DatedMoney.Decimal
open Text

/-- A number as it is read: digits, with a point after them or among them, and an exponent. -/
structure NumberText where
  whole : List Char
  fraction : Option (List Char)
  exponent : Option Int
  whole_ne : whole ≠ []
  whole_digits : ∀ c ∈ whole, isDigit c
  fraction_digits : ∀ f ∈ fraction, ∀ c ∈ f, isDigit c

/-- The sign of an exponent is always written. -/
def exponentChars (x : Int) : List Char :=
  (if x < 0 then '-' else '+') :: Nat.toDigits 10 x.natAbs

namespace NumberText

def text (n : NumberText) : List Char :=
  n.whole ++ (Notation.partAfter '.' n.fraction ++
    Notation.partAfter 'E' (n.exponent.map exponentChars))

def places (n : NumberText) : List Char := n.fraction.getD []

def coefficient (n : NumberText) : Nat := Nat.ofDigitChars 10 (n.whole ++ n.places) 0

/-- The exponent of the last digit. -/
def lastExponent (n : NumberText) : Int := n.exponent.getD 0 - n.places.length

end NumberText

/-! ## How a number is written -/

theorem exists_withPoint (c places : Nat) : ∃ n : NumberText,
    withPoint (Nat.toDigits 10 c) places = n.text ∧ n.coefficient = c ∧
      n.lastExponent = -places := by
  have hdigits : ∀ x ∈ (Nat.toDigits 10 c).leftpad (places + 1) '0', isDigit x :=
    fun x => isDigit_of_mem_leftpad
  have hvalue := ofDigitChars_leftpad (places + 1) c
  have hlength : places + 1 ≤ ((Nat.toDigits 10 c).leftpad (places + 1) '0').length := by
    rw [List.length_leftpad]
    exact le_max_left ..
  rw [withPoint]
  generalize (Nat.toDigits 10 c).leftpad (places + 1) '0' = ds at *
  by_cases h0 : places = 0
  · refine ⟨⟨ds, none, none, List.ne_nil_of_length_pos (by omega), hdigits, nofun⟩, ?_, ?_, ?_⟩
    · simp [h0, NumberText.text, Notation.partAfter]
    · simpa [NumberText.coefficient, NumberText.places] using hvalue
    · simp [h0, NumberText.lastExponent, NumberText.places]
  · have hsplit := List.take_append_drop (ds.length - places) ds
    refine ⟨⟨ds.take (ds.length - places), some (ds.drop (ds.length - places)), none,
      List.ne_nil_of_length_pos (by rw [List.length_take]; omega),
      fun x hx => hdigits x (List.mem_of_mem_take hx), ?_⟩, ?_, ?_, ?_⟩
    · rintro _ ⟨⟩ x hx
      exact hdigits x (List.mem_of_mem_drop hx)
    · simp [h0, NumberText.text, Notation.partAfter]
    · simpa [NumberText.coefficient, NumberText.places, hsplit] using hvalue
    · simp only [NumberText.lastExponent, NumberText.places, Option.getD_none, Option.getD_some,
        List.length_drop]
      omega

theorem exists_scientific (c : Nat) (adjusted : Int) : ∃ n : NumberText,
    scientific (Nat.toDigits 10 c) adjusted = n.text ∧ n.coefficient = c ∧
      n.lastExponent = adjusted - ((Nat.toDigits 10 c).length - 1) := by
  have hdigits : ∀ x ∈ Nat.toDigits 10 c, isDigit x := fun x => isDigit_of_mem_toDigits
  have hvalue : Nat.ofDigitChars 10 (Nat.toDigits 10 c) 0 = c := Nat.ofDigitChars_ten_toDigits
  have hne : Nat.toDigits 10 c ≠ [] := Nat.toDigits_ne_nil
  generalize Nat.toDigits 10 c = ds at *
  match ds with
  | [] => exact absurd rfl hne
  | [d] =>
    refine ⟨⟨[d], none, some adjusted, hne, hdigits, nofun⟩, ?_, ?_, ?_⟩
    · simp [scientific, NumberText.text, Notation.partAfter, exponentChars]
    · simpa [NumberText.coefficient, NumberText.places] using hvalue
    · simp [NumberText.lastExponent, NumberText.places]
  | d :: d' :: ds =>
    refine ⟨⟨[d], some (d' :: ds), some adjusted, by simp, ?_, ?_⟩, ?_, ?_, ?_⟩
    · intro x hx
      exact hdigits x (List.mem_cons.2 (.inl (List.mem_singleton.1 hx)))
    · rintro _ ⟨⟩ x hx
      exact hdigits x (List.mem_cons_of_mem d hx)
    · simp [scientific, NumberText.text, Notation.partAfter, exponentChars]
    · simpa [NumberText.coefficient, NumberText.places] using hvalue
    · simp [NumberText.lastExponent, NumberText.places]

theorem exists_numberText (s : Bool) (c : Nat) (e : Int) : ∃ n : NumberText,
    (Decimal.finite s c e).toChars = signChars s ++ n.text ∧ n.coefficient = c ∧
      n.lastExponent = e := by
  rw [toChars]
  split
  · rename_i h
    simp only [Bool.and_eq_true, decide_eq_true_eq] at h
    obtain ⟨n, htext, hc, he⟩ := exists_withPoint c (-e).toNat
    exact ⟨n, by rw [htext], hc, by omega⟩
  · obtain ⟨n, htext, hc, he⟩ := exists_scientific c (e + (Nat.toDigits 10 c).length - 1)
    exact ⟨n, by rw [htext], hc, by omega⟩

/-! ## How it is read -/

theorem exponent?_exponentChars (x : Int) : exponent? (exponentChars x) = some x := by
  have hdigits : (Nat.toDigits 10 x.natAbs).all isDigit = true :=
    List.all_eq_true.2 fun c => isDigit_of_mem_toDigits
  have hne : Nat.toDigits 10 x.natAbs ≠ [] := Nat.toDigits_ne_nil
  by_cases hx : x < 0
  · simp [exponentChars, exponent?, hx, hdigits, hne, Nat.ofDigitChars_ten_toDigits, abs_of_neg]
  · simp [exponentChars, exponent?, hx, hdigits, hne, Nat.ofDigitChars_ten_toDigits,
      abs_of_nonneg (Int.not_lt.1 hx)]

theorem takeWhile_digits {ds rest : List Char} (h : ∀ c ∈ ds, isDigit c)
    (hrest : ∀ c ∈ rest.head?, ¬isDigit c) : (ds ++ rest).takeWhile isDigit = ds := by
  rw [List.takeWhile_append_of_pos h]
  cases rest with
  | nil => rw [List.takeWhile_nil, List.append_nil]
  | cons c rest => rw [List.takeWhile_cons_of_neg (hrest c rfl), List.append_nil]

theorem dropWhile_digits {ds rest : List Char} (h : ∀ c ∈ ds, isDigit c)
    (hrest : ∀ c ∈ rest.head?, ¬isDigit c) : (ds ++ rest).dropWhile isDigit = rest := by
  rw [List.dropWhile_append_of_pos h]
  cases rest with
  | nil => rfl
  | cons c rest => rw [List.dropWhile_cons_of_neg (hrest c rfl)]

theorem number?_text (s : Bool) (n : NumberText) :
    number? s n.text = finite? s n.coefficient n.lastExponent := by
  obtain ⟨whole, fraction, exponent, hne, hwhole, hfraction⟩ := n
  have hexponent : ∀ c ∈ (Notation.partAfter 'E' (exponent.map exponentChars)).head?,
      ¬isDigit c := by
    cases exponent <;> simp [Notation.partAfter, isDigit]
  have hrest : ∀ c ∈ (Notation.partAfter '.' fraction ++
      Notation.partAfter 'E' (exponent.map exponentChars)).head?, ¬isDigit c := by
    cases fraction with
    | none => exact hexponent
    | some f => simp [Notation.partAfter, isDigit]
  have hwhole' := takeWhile_digits hwhole hrest
  have hrest' := dropWhile_digits hwhole hrest
  simp only [NumberText.text, NumberText.coefficient, NumberText.lastExponent, NumberText.places]
  cases fraction with
  | none =>
    cases exponent with
    | none =>
      simp only [Notation.partAfter, Option.map_none, List.append_nil] at hwhole' hrest'
      simp only [number?, Notation.partAfter, Option.map_none, Option.getD_none, List.append_nil,
        hwhole', hrest', hne, false_and, if_false]
      rfl
    | some x =>
      simp only [Notation.partAfter, Option.map_some, List.nil_append] at hwhole' hrest'
      simp only [number?, Notation.partAfter, Option.map_some, List.nil_append, hwhole', hrest',
        hne, false_and, if_false]
      change ((exponent? (exponentChars x)).bind fun y =>
        finite? s (Nat.ofDigitChars 10 (whole ++ []) 0) (y - 0)) = _
      rw [exponent?_exponentChars]
      rfl
  | some f =>
    have hf := takeWhile_digits (hfraction f rfl) hexponent
    have hf' := dropWhile_digits (hfraction f rfl) hexponent
    cases exponent with
    | none =>
      simp only [Notation.partAfter, Option.map_none, List.append_nil] at hwhole' hrest' hf hf'
      simp only [number?, Notation.partAfter, Option.map_none, List.append_nil, hwhole', hrest', hf,
        hf', hne, false_and, if_false]
      rfl
    | some x =>
      simp only [Notation.partAfter, Option.map_some, List.cons_append] at hwhole' hrest' hf hf'
      simp only [number?, Notation.partAfter, Option.map_some, List.cons_append, hwhole', hrest',
        hf, hf', exponent?_exponentChars, hne, false_and, if_false]
      rfl

theorem toLower_digit {c : Char} (h : isDigit c) : c.toLower = c := by
  have hsize := isDigit_iff.1 h
  refine dif_neg fun hupper => ?_
  have hlow : 65 ≤ c.toNat := UInt32.le_iff_toNat_le.1 hupper.1
  omega

theorem NumberText.exists_first (n : NumberText) : ∃ c cs, n.text = c :: cs ∧ isDigit c := by
  obtain ⟨c, cs, hc⟩ := List.exists_cons_of_ne_nil n.whole_ne
  exact ⟨c, _, by rw [text, hc, List.cons_append], n.whole_digits c (hc ▸ List.mem_cons_self)⟩

/-- A number is no word. -/
theorem unsigned?_text (s : Bool) (n : NumberText) :
    unsigned? s n.text = number? s n.text := by
  obtain ⟨c, cs, hc, hdigit⟩ := n.exists_first
  have hn : c ≠ 'n' := by rintro rfl; exact absurd hdigit (by decide)
  have hs : c ≠ 's' := by rintro rfl; exact absurd hdigit (by decide)
  have hi : c ≠ 'i' := by rintro rfl; exact absurd hdigit (by decide)
  rw [unsigned?, hc, List.map_cons, toLower_digit hdigit]
  split
  · rename_i heq
    exact absurd (List.cons.inj heq).1 hn
  · rename_i heq
    exact absurd (List.cons.inj heq).1 hs
  · simp [hi]

/-! ## Characters that count -/

/-- The characters that occur in a number. -/
def isNumberChar (c : Char) : Bool := isDigit c || c = '.' || c = 'E' || c = '+' || c = '-'

theorem isNumberChar_of_isDigit {c : Char} (h : isDigit c) : isNumberChar c := by
  simp [isNumberChar, h]

theorem isNumberChar_text {n : NumberText} {c : Char} (h : c ∈ n.text) : isNumberChar c := by
  rcases List.mem_append.1 h with h | h
  · exact isNumberChar_of_isDigit (n.whole_digits c h)
  rcases List.mem_append.1 h with h | h
  · cases hf : n.fraction with
    | none => simp [hf, Notation.partAfter] at h
    | some f =>
      rw [hf, Notation.partAfter] at h
      rcases List.mem_cons.1 h with rfl | h
      · decide
      · exact isNumberChar_of_isDigit (n.fraction_digits f hf c h)
  · cases hx : n.exponent with
    | none => simp [hx, Notation.partAfter] at h
    | some x =>
      rw [hx, Option.map_some, Notation.partAfter, exponentChars] at h
      rcases List.mem_cons.1 h with rfl | h
      · decide
      rcases List.mem_cons.1 h with rfl | h
      · split <;> decide
      · exact isNumberChar_of_isDigit (isDigit_of_mem_toDigits h)

theorem strip_eq_self {p : Char → Bool} {cs : List Char} (h : ∀ c ∈ cs, ¬p c) :
    strip p cs = cs := by
  have hdrop (cs : List Char) (h : ∀ c ∈ cs, ¬p c) : cs.dropWhile p = cs := by
    cases cs with
    | nil => rfl
    | cons c cs => exact List.dropWhile_cons_of_neg (h c List.mem_cons_self)
  rw [strip, hdrop cs h, hdrop cs.reverse fun c hc => h c (List.mem_reverse.1 hc),
    List.reverse_reverse]

theorem isNumberChar_cases {c : Char} (h : isNumberChar c) :
    ¬isBlank c ∧ c ≠ '_' ∧ c.toNat < 128 := by
  simp only [isNumberChar, Bool.or_eq_true, decide_eq_true_eq] at h
  rcases h with (((h | rfl) | rfl) | rfl) | rfl
  · have hsize := isDigit_iff.1 h
    refine ⟨?_, ?_, by omega⟩
    · simp only [isBlank, CodeRanges.contains, blanks, List.any_cons, List.any_nil, Bool.or_eq_true,
        Bool.and_eq_true, decide_eq_true_eq, Bool.false_eq_true, or_false]
      omega
    · rintro rfl
      exact absurd h (by decide)
  all_goals decide

theorem plainChars?_eq_self {cs : List Char} (h : ∀ c ∈ cs, isNumberChar c) :
    plainChars? cs = some cs := by
  have hstrip : strip isBlank cs = cs := strip_eq_self fun c hc => (isNumberChar_cases (h c hc)).1
  have hfilter : cs.filter (· ≠ '_') = cs :=
    List.filter_eq_self.2 fun c hc => decide_eq_true (isNumberChar_cases (h c hc)).2.1
  rw [plainChars?, hstrip, hfilter]
  clear hstrip hfilter
  induction cs with
  | nil => rfl
  | cons c cs ih =>
    obtain ⟨hc, hcs⟩ := List.forall_mem_cons.1 h
    rw [List.mapM_cons, ih hcs, if_pos (isNumberChar_cases hc).2.2]
    rfl

/-- A number is read with the sign before it, if its digits are within reach. -/
theorem ofText?_numberText (s : Bool) (n : NumberText) :
    ofText? (.ofList (signChars s ++ n.text)) = finite? s n.coefficient n.lastExponent := by
  have hread (s : Bool) : unsigned? s n.text = finite? s n.coefficient n.lastExponent :=
    (unsigned?_text s n).trans (number?_text s n)
  have hplain : plainChars? (signChars s ++ n.text) = some (signChars s ++ n.text) := by
    refine plainChars?_eq_self fun c hc => ?_
    rcases List.mem_append.1 hc with hc | hc
    · cases s with
      | false => cases hc
      | true => exact List.mem_singleton.1 hc ▸ rfl
    · exact isNumberChar_text hc
  rw [ofText?, String.toList_ofList, hplain]
  cases s with
  | true => exact hread true
  | false =>
    -- Without a sign in front the first character is a digit, and no sign of its own.
    obtain ⟨x, cs, htext, hx⟩ := n.exists_first
    have hminus : x ≠ '-' := by rintro rfl; exact absurd hx (by decide)
    have hplus : x ≠ '+' := by rintro rfl; exact absurd hx (by decide)
    rw [← hread, htext, signChars, if_neg Bool.false_ne_true, List.nil_append,
      Option.bind_eq_bind, Option.bind_some]
    split
    · rename_i heq
      exact absurd (List.cons.inj heq).1 hminus
    · rename_i heq
      exact absurd (List.cons.inj heq).1 hplus
    · rfl

theorem NumberText.length_le_text (n : NumberText) :
    (n.whole ++ n.places).length ≤ n.text.length := by
  obtain ⟨whole, fraction, exponent⟩ := n
  rw [text, places, List.length_append, List.length_append]
  refine Nat.add_le_add_left ?_ _
  cases fraction with
  | none => exact Nat.zero_le _
  | some f =>
    rw [Option.getD_some, List.length_append]
    exact (Nat.le_succ _).trans (Nat.le_add_right _ _)

theorem NumberText.isDigit_of_mem {n : NumberText} {c : Char} (h : c ∈ n.whole ++ n.places) :
    isDigit c := by
  rcases List.mem_append.1 h with h | h
  · exact n.whole_digits c h
  · cases hf : n.fraction with
    | none => simp [places, hf] at h
    | some f =>
      rw [places, hf] at h
      exact n.fraction_digits f hf c h

/-- A number without an exponent is out of reach only if its text is. -/
theorem NumberText.ofText?_text (n : NumberText) (h : n.exponent = none) :
    ofText? (.ofList n.text) = some (.finite false n.coefficient (-n.places.length)) ∨
      10 ^ 18 < n.text.length ∧ ofText? (.ofList n.text) = none := by
  have hread : ofText? (.ofList n.text) = finite? false n.coefficient n.lastExponent :=
    ofText?_numberText false n
  have hlast : n.lastExponent = -n.places.length := by
    rw [lastExponent, h, Option.getD_none, Int.zero_sub]
  have hcount : digitCount n.coefficient ≤ (n.whole ++ n.places).length :=
    digitCount_le (List.length_pos_of_ne_nil (List.append_ne_nil_of_left_ne_nil n.whole_ne _))
      (ofDigitChars_lt fun _ => isDigit_of_mem)
  have hlength := n.length_le_text
  rw [hread, hlast, finite?]
  split
  · exact .inl rfl
  · rename_i hreach
    refine .inr ⟨?_, rfl⟩
    rw [Bool.and_eq_true, decide_eq_true_eq, decide_eq_true_eq, minExponent, maxExponent] at hreach
    rw [List.length_append] at hlength hcount
    omega

/-- What is written for a number is read as that number, if it can be read at all. -/
theorem ofText?_toText (s : Bool) (c : Nat) (e : Int) :
    ofText? (Decimal.finite s c e).toText = finite? s c e := by
  obtain ⟨n, htext, rfl, rfl⟩ := exists_numberText s c e
  rw [toText, htext, ofText?_numberText]

theorem finite?_eq_some_iff {s : Bool} {c : Nat} {e : Int} {y : Decimal} :
    finite? s c e = some y ↔
      (minExponent ≤ e ∧ e + digitCount c - 1 ≤ maxExponent) ∧ .finite s c e = y := by
  rw [finite?]
  split <;> simp_all

/-- An amount of cents is printed in full, and read again as it is. -/
theorem IsCents.ofText?_toText {a : Decimal} {n : ℤ} (h : a.IsCents n) (hn : n.natAbs < 10 ^ 28) :
    ofText? a.toText = some a := by
  obtain ⟨s, rfl, -⟩ := h
  have hcount := digitCount_le (k := 28) (by decide) hn
  rw [Decimal.ofText?_toText, finite?, if_pos]
  rw [Bool.and_eq_true, decide_eq_true_eq, decide_eq_true_eq, minExponent, maxExponent]
  omega

end DatedMoney.Decimal
