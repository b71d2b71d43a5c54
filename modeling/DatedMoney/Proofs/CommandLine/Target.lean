import DatedMoney.CommandLine.Target
import DatedMoney.Proofs.Outcome
import DatedMoney.Proofs.Text.DecimalDigit
import Mathlib.Data.List.TakeWhile

/-!
# Target dates

A target date is written as one to three numbers between dashes (`readTarget_outcome`). Every other
text is refused as malformed or as out of range, unless its parts pass for numbers and one of them is
none: that is a part with a digit that stands alone, or with more digits than can be read.
-/

namespace DatedMoney

/-- The numbers of a date, in the order in which they are written. -/
def Date.numbers : Date → List Int
  | .yearly y => [y]
  | .monthly y m => [y, m.val]
  | .daily y m d => [y, m.val, d.val]

theorem Bounded.ofInt?_eq_some_iff {low high n : Int} {b : Bounded low high} :
    ofInt? n = some b ↔ n = b.val := by
  constructor
  · intro h
    rw [ofInt?] at h
    split at h
    · cases h
      rfl
    · cases h
  · rintro rfl
    exact dif_pos ⟨b.low_le, b.le_high⟩

theorem Bounded.ofInt?_eq_none_iff {low high n : Int} :
    (ofInt? n : Option (Bounded low high)) = none ↔ ¬(low ≤ n ∧ n ≤ high) := by
  rw [ofInt?]
  split
  · rename_i h
    exact iff_of_false (Option.some_ne_none _) (not_not_intro h)
  · rename_i h
    exact iff_of_true rfl h

namespace CommandLine
open Text Except

/-! ## Parts -/

/-- A part that is read as a number: decimal digits, and not too many of them. -/
structure Part (cs : List Char) (n : Int) : Prop where
  short : cs.length ≤ maxDigits
  numeral : ∃ k : Nat, Numeral cs k ∧ n = k

/-- One to three parts, all of whose characters count as digits. -/
structure Shaped (parts : List (List Char)) : Prop where
  few : parts.length ≤ 3
  digits : ∀ part ∈ parts, part ≠ [] ∧ ∀ c ∈ part, isAnyDigit c

theorem leadingDigits_eq {cs : List Char} (h : ∀ c ∈ cs, (digitValue? c).isSome) :
    leadingDigits cs = cs.length := by
  rw [leadingDigits, List.takeWhile_eq_self_iff.2 h]

theorem targetNumber_cases {cs : List Char} (h : cs ≠ []) :
    (∃ n, targetNumber cs = .ok n ∧ ∀ n', Part cs n' ↔ n' = n) ∨
      targetNumber cs = .error (.notANumber (.ofList cs)) ∧ ¬∃ n, Part cs n := by
  have hnumeral : (∃ n, Part cs n) → ∀ c ∈ cs, (digitValue? c).isSome := by
    rintro ⟨_, -, k, hk, -⟩
    exact (exists_numeral_iff h).1 ⟨k, hk⟩
  rw [targetNumber]
  split
  · rename_i hlong
    refine .inr ⟨rfl, fun hpart => ?_⟩
    rw [leadingDigits_eq (hnumeral hpart)] at hlong
    obtain ⟨n, hshort, -⟩ := hpart
    exact absurd hshort (Nat.not_le.2 hlong)
  rename_i hshort
  cases hvalue : digitsValue? cs with
  | none =>
    refine .inr ⟨rfl, ?_⟩
    rintro ⟨_, -, k, hk, -⟩
    cases hvalue.symm.trans ((numeral_iff h).1 hk)
  | some k =>
    have hk := (numeral_iff h).2 hvalue
    rw [leadingDigits_eq ((exists_numeral_iff h).1 ⟨k, hk⟩), Nat.not_lt] at hshort
    refine .inl ⟨k, rfl, fun n' => ⟨?_, ?_⟩⟩
    · rintro ⟨-, k', hk', rfl⟩
      rw [numeral_iff h, hvalue] at hk'
      exact congrArg Nat.cast (Option.some.inj hk').symm
    · rintro rfl
      exact ⟨hshort, k, hk, rfl⟩

theorem targetNumber_eq_ok_iff {cs : List Char} (h : cs ≠ []) {n : Int} :
    targetNumber cs = .ok n ↔ Part cs n := by
  obtain ⟨k, hk, hpart⟩ | ⟨herror, hpart⟩ := targetNumber_cases h
  · rw [hk, hpart, Except.ok.injEq, eq_comm]
  · rw [herror]
    exact iff_of_false (fun h => by cases h) fun h => hpart ⟨n, h⟩

theorem targetNumber_eq_error_iff {cs : List Char} (h : cs ≠ []) {e : TargetError} :
    targetNumber cs = .error e ↔ e = .notANumber (.ofList cs) ∧ ¬∃ n, Part cs n := by
  obtain ⟨k, hk, hpart⟩ | ⟨herror, hpart⟩ := targetNumber_cases h
  · rw [hk]
    exact iff_of_false (fun h => by cases h) fun h => h.2 ⟨k, (hpart k).2 rfl⟩
  · rw [herror, and_iff_left hpart, Except.error.injEq, eq_comm]

/-- What passes for a number is none if a digit of it stands alone, or if it has too many. -/
theorem not_part_iff {cs : List Char} (hne : cs ≠ []) (hdigits : ∀ c ∈ cs, isAnyDigit c) :
    (¬∃ n, Part cs n) ↔ (∃ c ∈ cs, loneDigits.contains c) ∨ maxDigits < cs.length := by
  have hlone : (∃ c ∈ cs, loneDigits.contains c) ↔ ¬∃ k, Numeral cs k := by
    rw [exists_numeral_iff hne]
    simp only [not_forall, Option.not_isSome_iff_eq_none]
    constructor
    · rintro ⟨c, hc, h⟩
      exact ⟨c, hc, digitValue?_of_lone h⟩
    · rintro ⟨c, hc, h⟩
      exact ⟨c, hc, (digitValue?_eq_none_iff (hdigits c hc)).1 h⟩
  have hpart : (∃ n, Part cs n) ↔ (∃ k, Numeral cs k) ∧ cs.length ≤ maxDigits := by
    constructor
    · rintro ⟨_, hshort, k, hk, -⟩
      exact ⟨⟨k, hk⟩, hshort⟩
    · rintro ⟨⟨k, hk⟩, hshort⟩
      exact ⟨k, hshort, k, hk, rfl⟩
  rw [hpart, not_and_or, hlone, Nat.not_le]

/-! ## All parts -/

theorem numbers_eq_ok_iff {parts : List (List Char)} (h : ∀ part ∈ parts, part ≠ [])
    {ns : List Int} : parts.mapM targetNumber = .ok ns ↔ List.Forall₂ Part parts ns := by
  induction parts generalizing ns with
  | nil => simp [eq_comm]
  | cons part parts ih =>
    obtain ⟨hne, h⟩ := List.forall_mem_cons.1 h
    simp only [List.mapM_cons, Except.bind_eq_ok_iff, targetNumber_eq_ok_iff hne, ih h,
      Except.pure_eq_ok, Except.ok.injEq, List.forall₂_cons_left_iff]
    constructor
    · rintro ⟨n, hn, ns, hns, rfl⟩
      exact ⟨n, ns, hn, hns, rfl⟩
    · rintro ⟨n, ns, hn, hns, rfl⟩
      exact ⟨n, hn, ns, hns, rfl⟩

/-- The first part that is no number. -/
def FirstUnread (parts : List (List Char)) (unread : String) : Prop :=
  ∃ before part after, parts = before ++ part :: after ∧ (∀ p ∈ before, ∃ n, Part p n) ∧
    ((∃ c ∈ part, loneDigits.contains c) ∨ maxDigits < part.length) ∧ unread = .ofList part

theorem numbers_eq_error_iff {parts : List (List Char)} (h : Shaped parts) {e : TargetError} :
    parts.mapM targetNumber = .error e ↔ ∃ s, FirstUnread parts s ∧ e = .notANumber s := by
  rw [mapM_eq_error_iff]
  constructor
  · rintro ⟨before, part, after, rfl, hbefore, hfails⟩
    obtain ⟨hne, hdigits⟩ := h.digits part (List.mem_append_right before List.mem_cons_self)
    obtain ⟨rfl, hpart⟩ := (targetNumber_eq_error_iff hne).1 hfails
    refine ⟨_, ⟨before, part, after, rfl, fun p hp => ?_, (not_part_iff hne hdigits).1 hpart, rfl⟩,
      rfl⟩
    obtain ⟨n, hn⟩ := hbefore p hp
    exact ⟨n, (targetNumber_eq_ok_iff (h.digits p (List.mem_append_left _ hp)).1).1 hn⟩
  · rintro ⟨_, ⟨before, part, after, rfl, hbefore, hpart, rfl⟩, rfl⟩
    obtain ⟨hne, hdigits⟩ := h.digits part (List.mem_append_right before List.mem_cons_self)
    refine ⟨before, part, after, rfl, fun p hp => ?_,
      (targetNumber_eq_error_iff hne).2 ⟨rfl, (not_part_iff hne hdigits).2 hpart⟩⟩
    obtain ⟨n, hn⟩ := hbefore p hp
    exact ⟨n, (targetNumber_eq_ok_iff (h.digits p (List.mem_append_left _ hp)).1).2 hn⟩

/-- Numbers are written in digits. -/
theorem shaped_of_forall₂ {parts : List (List Char)} {ns : List Int}
    (h : List.Forall₂ Part parts ns) (hns : ns.length ≤ 3) : Shaped parts where
  few := h.length_eq ▸ hns
  digits := by
    clear hns
    induction h with
    | nil => exact List.forall_mem_nil _
    | cons hpart _ ih =>
      refine List.forall_mem_cons.2 ⟨?_, ih⟩
      obtain ⟨-, k, hk, -⟩ := hpart
      have hvalues := (exists_numeral_iff hk.1).1 ⟨k, hk⟩
      exact ⟨hk.1, fun c hc => by rw [isAnyDigit, hvalues c hc, Bool.true_or]⟩

/-! ## The date of the numbers -/

theorem inRange_eq_ok_iff {low high n : Int} {outside : TargetError} {b : Bounded low high} :
    inRange outside n = .ok b ↔ n = b.val := by
  rw [← Bounded.ofInt?_eq_some_iff, inRange]
  split
  · rename_i h
    rw [h, Except.ok.injEq, Option.some.injEq]
  · rename_i h
    rw [h]
    exact iff_of_false (fun h => by cases h) fun h => by cases h

theorem inRange_eq_error_iff {low high n : Int} {outside e : TargetError} :
    (inRange outside n : Except _ (Bounded low high)) = .error e ↔
      e = outside ∧ ¬(low ≤ n ∧ n ≤ high) := by
  rw [← Bounded.ofInt?_eq_none_iff, inRange]
  split
  · rename_i h
    rw [h]
    exact iff_of_false (fun h => by cases h) fun h => by cases h.2
  · rename_i h
    rw [h, Except.error.injEq, and_iff_left rfl, eq_comm]

theorem targetDate_eq_ok_iff {ns : List Int} {date : Date} :
    targetDate ns = .ok date ↔ ns = date.numbers := by
  constructor
  · intro h
    unfold targetDate at h
    split at h
    · cases h
      rfl
    · obtain ⟨m, hm, h⟩ := Except.bind_eq_ok_iff.1 h
      cases h
      rw [inRange_eq_ok_iff.1 hm, Date.numbers]
    · obtain ⟨m, hm, h⟩ := Except.bind_eq_ok_iff.1 h
      obtain ⟨d, hd, h⟩ := Except.bind_eq_ok_iff.1 h
      cases h
      rw [inRange_eq_ok_iff.1 hm, inRange_eq_ok_iff.1 hd, Date.numbers]
    · cases h
  · rintro rfl
    cases date with
    | yearly y => rfl
    | monthly y m =>
      have hm : inRange .monthOutOfRange m.val = .ok m := inRange_eq_ok_iff.2 rfl
      rw [Date.numbers, targetDate, hm]
      rfl
    | daily y m d =>
      have hm : inRange .monthOutOfRange m.val = .ok m := inRange_eq_ok_iff.2 rfl
      have hd : inRange .dayOutOfRange d.val = .ok d := inRange_eq_ok_iff.2 rfl
      rw [Date.numbers, targetDate, hm, hd]
      rfl

/-- A second number that is no month is found before a third that is no day. -/
theorem targetDate_eq_error_iff {ns : List Int} (hne : ns ≠ []) (hfew : ns.length ≤ 3)
    {e : TargetError} : targetDate ns = .error e ↔
      (e = .monthOutOfRange ∧ ∃ m ∈ ns[1]?, ¬(1 ≤ m ∧ m ≤ 12)) ∨
        e = .dayOutOfRange ∧ (∃ m ∈ ns[1]?, 1 ≤ m ∧ m ≤ 12) ∧ ∃ d ∈ ns[2]?, ¬(1 ≤ d ∧ d ≤ 31) := by
  obtain _ | ⟨y, _ | ⟨m, _ | ⟨d, _ | ⟨n, rest⟩⟩⟩⟩ := ns
  · exact absurd rfl hne
  · simp [targetDate]
  · rw [targetDate, Except.bind_eq_error_iff, inRange_eq_error_iff]
    simp
  · have hmonth : (∃ b : Month, m = b.val) ↔ 1 ≤ m ∧ m ≤ 12 := by
      constructor
      · rintro ⟨b, rfl⟩
        exact ⟨b.low_le, b.le_high⟩
      · rintro ⟨hlow, hhigh⟩
        exact ⟨⟨m, hlow, hhigh⟩, rfl⟩
    rw [targetDate, Except.bind_eq_error_iff, inRange_eq_error_iff]
    simp only [Except.bind_eq_error_iff, inRange_eq_error_iff, inRange_eq_ok_iff,
      Except.pure_eq_ok, reduceCtorEq, and_false, exists_false, or_false, exists_and_right, hmonth]
    simp [and_left_comm]
  · exact absurd hfew (by simp)

/-! ## Target dates -/

/-- What can come of a text, by its parts between dashes. -/
structure TargetOutcome (parts : List (List Char)) (a : Except TargetError Date) : Prop where
  returned : ∀ date, a = .ok date ↔ List.Forall₂ Part parts date.numbers
  malformed : a = .error .malformed ↔ ¬Shaped parts
  monthOutOfRange : a = .error .monthOutOfRange ↔ Shaped parts ∧
    ∃ ns, List.Forall₂ Part parts ns ∧ ∃ m ∈ ns[1]?, ¬(1 ≤ m ∧ m ≤ 12)
  dayOutOfRange : a = .error .dayOutOfRange ↔ Shaped parts ∧ ∃ ns, List.Forall₂ Part parts ns ∧
    (∃ m ∈ ns[1]?, 1 ≤ m ∧ m ≤ 12) ∧ ∃ d ∈ ns[2]?, ¬(1 ≤ d ∧ d ≤ 31)
  notANumber : ∀ s, a = .error (.notANumber s) ↔ Shaped parts ∧ FirstUnread parts s

theorem misshapen_iff {parts : List (List Char)} :
    (3 < parts.length || !parts.all fun part => part ≠ [] && part.all isAnyDigit) ↔
      ¬Shaped parts := by
  have hdigits : (parts.all fun part => part ≠ [] && part.all isAnyDigit) ↔
      ∀ part ∈ parts, part ≠ [] ∧ ∀ c ∈ part, isAnyDigit c := by
    simp only [List.all_eq_true, Bool.and_eq_true, decide_eq_true_eq]
  have hshaped : Shaped parts ↔ parts.length ≤ 3 ∧
      ∀ part ∈ parts, part ≠ [] ∧ ∀ c ∈ part, isAnyDigit c :=
    ⟨fun h => ⟨h.few, h.digits⟩, fun h => ⟨h.1, h.2⟩⟩
  rw [hshaped, not_and_or, ← hdigits, Bool.or_eq_true, decide_eq_true_eq, Nat.not_le,
    Bool.not_eq_true', Bool.not_eq_true]

theorem readTarget_of_shaped {text : String} (h : Shaped (text.toList.splitOn '-')) :
    readTarget text = (text.toList.splitOn '-').mapM targetNumber >>= targetDate := by
  rw [readTarget, if_neg (mt misshapen_iff.1 (not_not_intro h))]

theorem readTarget_of_not_shaped {text : String} (h : ¬Shaped (text.toList.splitOn '-')) :
    readTarget text = .error .malformed := by
  rw [readTarget, if_pos (misshapen_iff.2 h)]
  rfl

theorem length_numbers_le (date : Date) : date.numbers.length ≤ 3 := by
  cases date <;> simp [Date.numbers]

theorem date_eq_ok_iff {parts : List (List Char)} (h : Shaped parts) {date : Date} :
    (parts.mapM targetNumber >>= targetDate) = .ok date ↔
      List.Forall₂ Part parts date.numbers := by
  have hne : ∀ part ∈ parts, part ≠ [] := fun part hpart => (h.digits part hpart).1
  simp only [Except.bind_eq_ok_iff, numbers_eq_ok_iff hne, targetDate_eq_ok_iff, exists_eq_right]

theorem date_eq_error_iff {parts : List (List Char)} (h : Shaped parts) (hparts : parts ≠ [])
    {e : TargetError} : (parts.mapM targetNumber >>= targetDate) = .error e ↔
      (∃ s, FirstUnread parts s ∧ e = .notANumber s) ∨ ∃ ns, List.Forall₂ Part parts ns ∧
        ((e = .monthOutOfRange ∧ ∃ m ∈ ns[1]?, ¬(1 ≤ m ∧ m ≤ 12)) ∨
          e = .dayOutOfRange ∧ (∃ m ∈ ns[1]?, 1 ≤ m ∧ m ≤ 12) ∧
            ∃ d ∈ ns[2]?, ¬(1 ≤ d ∧ d ≤ 31)) := by
  have hne : ∀ part ∈ parts, part ≠ [] := fun part hpart => (h.digits part hpart).1
  rw [Except.bind_eq_error_iff, numbers_eq_error_iff h]
  refine or_congr_right (exists_congr fun ns => ?_)
  rw [numbers_eq_ok_iff hne]
  refine and_congr_right fun hns => targetDate_eq_error_iff ?_ (hns.length_eq ▸ h.few)
  rintro rfl
  exact hparts (List.forall₂_nil_right_iff.1 hns)

/-- A text is read as a target date exactly if it writes out the numbers of one. Otherwise it is
refused, and if its parts pass for numbers but one of them is none, this part is the error. -/
theorem readTarget_outcome (text : String) :
    TargetOutcome (text.toList.splitOn '-') (readTarget text) := by
  have hparts : text.toList.splitOn '-' ≠ [] := List.splitOnP_ne_nil _ _
  by_cases hshaped : Shaped (text.toList.splitOn '-')
  · rw [readTarget_of_shaped hshaped]
    refine ⟨fun _ => date_eq_ok_iff hshaped, ?_, ?_, ?_, fun _ => ?_⟩ <;>
      simp [date_eq_error_iff hshaped hparts, hshaped]
  · have hspelled (date : Date) : ¬List.Forall₂ Part (text.toList.splitOn '-') date.numbers :=
      fun h => hshaped (shaped_of_forall₂ h (length_numbers_le date))
    rw [readTarget_of_not_shaped hshaped]
    refine ⟨fun date => ?_, ?_, ?_, ?_, fun _ => ?_⟩ <;> simp [hshaped, hspelled]

/-- A month in Arabic digits is read, and one with a digit that only stands alone is not. -/
theorem readTarget_outcome_scripts :
    readTarget "2024-٠٦" = .ok (.monthly 2024 ⟨6, by decide, by decide⟩) ∧
      readTarget "2024-²" = .error (.notANumber "²") ∧
      readTarget "2024-13" = .error .monthOutOfRange ∧
      readTarget "2024-" = .error .malformed := by
  have hpart {cs : List Char} {n : Nat} (hne : cs ≠ []) (hshort : cs.length ≤ maxDigits)
      (hvalue : digitsValue? cs = some n) : Part cs n :=
    ⟨hshort, n, (numeral_iff hne).2 hvalue, rfl⟩
  have hyear : Part "2024".toList 2024 := hpart (by decide) (by decide) (by rfl)
  have hjune : Part "٠٦".toList 6 := hpart (by decide) (by decide) (by rfl)
  have hthirteen : Part "13".toList 13 := hpart (by decide) (by decide) (by rfl)
  have hlone : Shaped ("2024-²".toList.splitOn '-') :=
    by_contra fun h => absurd (misshapen_iff.2 h) (by decide)
  have hmonth : Shaped ("2024-13".toList.splitOn '-') :=
    by_contra fun h => absurd (misshapen_iff.2 h) (by decide)
  refine ⟨?_, ?_, ?_, ?_⟩
  · exact ((readTarget_outcome "2024-٠٦").returned _).2 (.cons hyear (.cons hjune .nil))
  · refine ((readTarget_outcome "2024-²").notANumber "²").2 ⟨hlone, ?_⟩
    exact ⟨["2024".toList], ['²'], [], rfl, List.forall_mem_singleton.2 ⟨2024, hyear⟩,
      .inl ⟨'²', .head _, by decide⟩, rfl⟩
  · refine (readTarget_outcome "2024-13").monthOutOfRange.2 ⟨hmonth, ?_⟩
    exact ⟨[2024, 13], .cons hyear (.cons hthirteen .nil), 13, rfl, by decide⟩
  · refine (readTarget_outcome "2024-").malformed.2 fun h => ?_
    exact (h.digits [] (.tail _ (.head _))).1 rfl

end CommandLine
end DatedMoney
