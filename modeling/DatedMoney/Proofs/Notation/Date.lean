import DatedMoney.Proofs.Notation.Grammar
import DatedMoney.Proofs.Text.Numeral

/-!
# Dates as they are written

The written form of a date is a date of the grammar exactly if its year has four digits, and then it
denotes that date (`DateText.text_eq_toChars_iff`).
-/

namespace DatedMoney

@[simp] theorem Date.toChars_yearly (y : Int) : (Date.yearly y).toChars = Text.intPadded 4 y :=
  List.append_nil _

@[simp] theorem Date.toChars_monthly (y : Int) (m : Month) :
    (Date.monthly y m).toChars = Text.intPadded 4 y ++ '-' :: Text.intPadded 2 m.val := rfl

@[simp] theorem Date.toChars_daily (y : Int) (m : Month) (d : Day) :
    (Date.daily y m d).toChars =
      Text.intPadded 4 y ++ '-' :: (Text.intPadded 2 m.val ++ '-' :: Text.intPadded 2 d.val) := rfl

namespace Notation

/-! ## Numerals -/

namespace Numeral

theorem value_lt (n : Numeral part) : n.value < 10 ^ part.width :=
  n.length_eq ▸ Text.ofDigitChars_lt n.digits

theorem eq_of_value {n n' : Numeral part} (h : n.value = n'.value) : n = n' :=
  Numeral.ext
    (Text.eq_of_ofDigitChars_eq n.digits n'.digits (n.length_eq.trans n'.length_eq.symm) h)

/-- The numeral for a number that has no more digits than the part. -/
def ofNat (part : Part) (k : Nat) (h : k < 10 ^ part.width) : Numeral part where
  chars := (Nat.toDigits 10 k).leftpad part.width '0'
  length_eq := (Text.length_leftpad_eq_iff (by cases part <;> decide)).2 h
  digits := fun _ => Text.isDigit_of_mem_leftpad

@[simp] theorem value_ofNat {k : Nat} (h : k < 10 ^ part.width) : (ofNat part k h).value = k :=
  Text.ofDigitChars_leftpad ..

/-- A numeral is what is written for its value. -/
theorem leftpad_value (n : Numeral part) :
    (Nat.toDigits 10 n.value).leftpad part.width '0' = n.chars :=
  congrArg chars (eq_of_value (value_ofNat n.value_lt))

theorem intPadded_value (n : Numeral part) : Text.intPadded part.width n.value = n.chars := by
  rw [← n.leftpad_value, Text.intPadded, if_neg (by omega)]
  rfl

end Numeral

theorem BoundedNumeral.intPadded_val (n : BoundedNumeral part low high) :
    Text.intPadded part.width n.bounded.val = n.chars := n.intPadded_value

/-- Every number between bounds with no more digits than the part has a numeral. -/
theorem BoundedNumeral.exists_bounded {low high : Int} (h : 0 ≤ low) (h' : high < 10 ^ part.width)
    (b : Bounded low high) : ∃ n : BoundedNumeral part low high, n.bounded = b := by
  obtain ⟨k, hlow, hhigh⟩ := b
  obtain ⟨k, rfl⟩ := Int.eq_ofNat_of_zero_le (Int.le_trans h hlow)
  have hk : k < 10 ^ part.width := by exact_mod_cast Int.lt_of_le_of_lt hhigh h'
  have hval := Numeral.value_ofNat hk
  refine ⟨⟨.ofNat part k hk, by rwa [hval], by rwa [hval]⟩, ?_⟩
  simp [bounded]

/-! ## Dates -/

theorem toChars_eq (x : Date) : ∃ o, x.toChars = Text.intPadded 4 x.year ++ partAfter '-' o := by
  cases x with
  | yearly y => exact ⟨none, rfl⟩
  | monthly y m => exact ⟨some _, rfl⟩
  | daily y m d => exact ⟨some _, rfl⟩

theorem mem_intPadded {w : Nat} {n : Int} {c : Char} (h : c ∈ Text.intPadded w n) :
    Text.isDigit c ∨ c = '-' := by
  rw [Text.intPadded] at h
  split at h
  · rcases List.mem_cons.1 h with h | h
    · exact .inr h
    · exact .inl (Text.isDigit_of_mem_leftpad h)
  · exact .inl (Text.isDigit_of_mem_leftpad h)

theorem mem_toChars {x : Date} {c : Char} (h : c ∈ x.toChars) : Text.isDigit c ∨ c = '-' := by
  cases x with
  | yearly y =>
    rw [Date.toChars_yearly] at h
    exact mem_intPadded h
  | monthly y m =>
    rw [Date.toChars_monthly] at h
    rcases List.mem_append.1 h with h | h
    · exact mem_intPadded h
    · exact (List.mem_cons.1 h).elim .inr mem_intPadded
  | daily y m d =>
    rw [Date.toChars_daily] at h
    rcases List.mem_append.1 h with h | h
    · exact mem_intPadded h
    rcases List.mem_cons.1 h with h | h
    · exact .inr h
    rcases List.mem_append.1 h with h | h
    · exact mem_intPadded h
    · exact (List.mem_cons.1 h).elim .inr mem_intPadded

theorem notMem_toChars {x : Date} {c : Char} (h : Text.isDigit c = false) (h' : c ≠ '-') :
    c ∉ x.toChars := by
  intro hc
  rcases mem_toChars hc with hc | hc
  · simp [h] at hc
  · exact h' hc

namespace DateText

/-- A date is written as it was read. -/
theorem toChars_value (d : DateText) : d.value.toChars = d.text := by
  cases d with
  | yearly y =>
    rw [value, Date.toChars_yearly, text]
    exact y.intPadded_value
  | monthly y m =>
    rw [value, Date.toChars_monthly, text, ← m.intPadded_val, ← y.intPadded_value]
    rfl
  | daily y m d =>
    rw [value, Date.toChars_daily, text, ← d.intPadded_val, ← m.intPadded_val, ← y.intPadded_value]
    rfl

theorem exists_value {x : Date} (h : 0 ≤ x.year) (h' : x.year ≤ 9999) :
    ∃ d : DateText, d.value = x := by
  obtain ⟨y, hy⟩ : ∃ y : Numeral .year, y.value = x.year := by
    obtain ⟨k, hk⟩ := Int.eq_ofNat_of_zero_le h
    have hlt : k < 10 ^ Part.year.width := by
      have : k < 10 ^ 4 := by omega
      exact this
    exact ⟨.ofNat .year k hlt, by rw [Numeral.value_ofNat, hk]⟩
  have hmonth (m : Month) : ∃ n : BoundedNumeral .month 1 12, n.bounded = m :=
    BoundedNumeral.exists_bounded (by decide) (by decide) m
  have hday (d : Day) : ∃ n : BoundedNumeral .day 1 31, n.bounded = d :=
    BoundedNumeral.exists_bounded (by decide) (by decide) d
  cases x with
  | yearly y' => exact ⟨.yearly y, by rw [value, hy]; rfl⟩
  | monthly y' m =>
    obtain ⟨m, rfl⟩ := hmonth m
    exact ⟨.monthly y m, by rw [value, hy]; rfl⟩
  | daily y' m d =>
    obtain ⟨m, rfl⟩ := hmonth m
    obtain ⟨d, rfl⟩ := hday d
    exact ⟨.daily y m d, by rw [value, hy]; rfl⟩

theorem text_eq (d : DateText) :
    ∃ (y : Numeral .year) (o : _), d.text = y.chars ++ partAfter '-' o := by
  cases d with
  | yearly y => exact ⟨y, none, (List.append_nil _).symm⟩
  | monthly y m => exact ⟨y, some _, rfl⟩
  | daily y m d => exact ⟨y, some _, rfl⟩

/-- A year of more digits is not cut short, and the sign of one before the year zero is no digit. -/
theorem year_of_text {d : DateText} {x : Date} (h : d.text = x.toChars) :
    0 ≤ x.year ∧ x.year ≤ 9999 := by
  obtain ⟨y, o, hd⟩ := d.text_eq
  obtain ⟨o', hx⟩ := toChars_eq x
  have hdash : '-' ∉ y.chars := fun h => absurd (y.digits _ h) (by decide)
  rw [hd, hx, Text.intPadded] at h
  split at h
  · obtain ⟨c, cs, hc⟩ := List.exists_cons_of_length_eq_add_one y.length_eq
    rw [hc] at h
    obtain ⟨rfl, -⟩ := List.cons.inj h
    exact absurd (hc ▸ List.mem_cons_self) hdash
  · rename_i hneg
    have hdash' : '-' ∉ (Nat.toDigits 10 x.year.natAbs).leftpad 4 '0' :=
      fun h => absurd (Text.isDigit_of_mem_leftpad h) (by decide)
    obtain ⟨hy, -⟩ := append_partAfter_inj hdash hdash' h
    have hlt := (Text.length_leftpad_eq_iff (by decide)).1 (hy ▸ y.length_eq)
    omega

/-- The grammar has no text for a date but the one written, and that only if its year has four
digits. -/
theorem text_eq_toChars_iff {d : DateText} {x : Date} : d.text = x.toChars ↔ d.value = x := by
  constructor
  · intro h
    obtain ⟨hy, hy'⟩ := year_of_text h
    obtain ⟨d', rfl⟩ := exists_value hy hy'
    rw [toChars_value] at h
    rw [text_injective h]
  · rintro rfl
    exact d.toChars_value.symm

theorem value_injective : Function.Injective value := by
  intro d d' h
  apply text_injective
  rw [← toChars_value, h, toChars_value]

theorem year_value (d : DateText) : 0 ≤ d.value.year ∧ d.value.year ≤ 9999 :=
  year_of_text d.toChars_value.symm

end DateText
end Notation
end DatedMoney
