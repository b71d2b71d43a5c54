import DatedMoney.Proofs.Notation.Written
import DatedMoney.Proofs.Value.Equality

/-!
# The normal form of notation

Writing what was read changes nothing but the amount, which becomes canonical
(`Sentence.normal`). The texts that come out of it stand for all that can be read and written: two
of them are the same exactly if their values are equal.
-/

namespace DatedMoney.Notation

theorem accepts_iff {text : String} : accepts (.string text) ↔ ∃ v, scan text = .ok v := by
  rw [accepts, ofJson]
  cases scan text <;> simp [Except.isOk, Except.toBool, Except.mapError]

theorem accepts_iff_derivable {text : String} :
    accepts (.string text) ↔ ∃ s : Sentence, s.text = text.toList := by
  rw [accepts_iff]
  constructor
  · rintro ⟨v, hv⟩
    obtain ⟨s, hs, -⟩ := scan_eq_ok_iff.1 hv
    exact ⟨s, hs⟩
  · rintro ⟨s, hs⟩
    exact ⟨s.value, scan_eq_ok_iff.2 ⟨s, hs, rfl⟩⟩

namespace Sentence

/-- The same sentence with its amount in canonical form. -/
def normal (s : Sentence) : Sentence := { s with amount := .ofCents s.amount.total }

theorem normal_text (s : Sentence) : s.normal.text = written s.value := by
  have hcents : s.value.amount.nearestCents = s.amount.total := s.amount.nearestCents_value
  refine text_eq_iff.2 ⟨(Currency.readBack_of_mem s.readable).symm, ⟨?_, ?_⟩, rfl, rfl⟩
  · rw [hcents]
    exact Int.natCast_nonneg _
  · rw [hcents, Int.natAbs_natCast]
    rfl

theorem normal_normal (s : Sentence) : s.normal.normal = s.normal := by
  rw [normal, normal, AmountText.total_ofCents]

/-- A sentence is in normal form exactly if its amount is canonical. -/
theorem normal_eq_iff {s : Sentence} : s.normal = s ↔ s.amount.Canonical := by
  rw [AmountText.canonical_iff, Sentence.ext_iff]
  exact ⟨fun h => h.2.1, fun h => ⟨rfl, h, rfl, rfl⟩⟩

theorem equal_value_iff {s s' : Sentence} :
    Value.equal false s.value s'.value = .ok true ↔ s.normal = s'.normal := by
  rw [Value.equal_finite s.amount.isFinite_value s'.amount.isFinite_value, Sentence.ext_iff]
  have hamount : s.value.amount.toRat = s'.value.amount.toRat ↔
      s.normal.amount = s'.normal.amount := by
    have h := s.amount.toRat_value
    have h' := s'.amount.toRat_value
    constructor
    · intro heq
      rw [value, value, h, h', div_left_inj' (by norm_num), Nat.cast_inj] at heq
      rw [normal, normal, heq]
    · intro heq
      have heq := congrArg AmountText.total heq
      rw [normal, normal, AmountText.total_ofCents, AmountText.total_ofCents] at heq
      rw [value, value, h, h', heq]
  rw [hamount]
  constructor
  · rintro ⟨ha, hc, hd, ho⟩
    exact ⟨hc, ha, DateText.value_injective hd, originValue_injective ho⟩
  · rintro ⟨hc, ha, hd, ho⟩
    exact ⟨ha, hc, congrArg DateText.value hd, congrArg originValue ho⟩

theorem not_writable_iff (s : Sentence) : ¬Writable s.value.amount ↔
    (¬∃ n : ℤ, s.value.amount.toRat = n) ∧ 10 ^ 26 ≤ s.value.amount.toRat := by
  have hcents : s.value.amount.nearestCents = s.amount.total := s.amount.nearestCents_value
  have hrat : s.value.amount.toRat = s.amount.total / 100 := s.amount.toRat_value
  have hle : ¬s.amount.total < 10 ^ 28 ↔ (10 ^ 26 : ℚ) ≤ s.amount.total / 100 := by
    rw [Nat.not_lt, le_div_iff₀ (by norm_num)]
    norm_num
  have hfin : s.value.amount.isFinite := s.amount.isFinite_value
  rw [Writable, not_or, Decimal.isWhole_iff hfin, hcents, Int.natAbs_natCast, hle, ← hrat]

theorem toRat_normal (s : Sentence) : s.normal.value.amount.toRat = s.value.amount.toRat := by
  have h := s.normal.amount.toRat_value
  rw [normal, AmountText.total_ofCents] at h
  exact h.trans s.amount.toRat_value.symm

theorem writable_normal (s : Sentence) :
    Writable s.normal.value.amount ↔ Writable s.value.amount := by
  rw [← not_iff_not, not_writable_iff, not_writable_iff, toRat_normal]

/-- What is read has years of four digits. -/
theorem shortYears (s : Sentence) : ShortYears s.value := by
  have hshort (d : DateText) : Text.isShort d.value.year :=
    isShort_of_four_digits d.year_value.1 d.year_value.2
  refine ⟨hshort s.date, fun p hp => ?_⟩
  obtain ⟨o, -, rfl⟩ := Option.map_eq_some_iff.1 hp
  exact hshort o.2

theorem write_value (s : Sentence) : write s.value =
    if Writable s.value.amount then .ok (.ofList s.normal.text)
    else .error (.signal .invalidOperation) := by
  rw [write_short s.amount.isFinite_value s.shortYears, normal_text]

end Sentence

/-- What can be read and written is written in normal form. Its amount is canonical and all else is
as it was; it is read as an equal value and written again as it stands. Values are equal exactly if
they have the same normal form. -/
theorem write_scan {text : String} (h : accepts (.string text)) :
    ∃ v, scan text = .ok v ∧
      (write v = .error (.signal .invalidOperation) ↔
        (¬∃ n : ℤ, v.amount.toRat = n) ∧ 10 ^ 26 ≤ v.amount.toRat) ∧
      (write v ≠ .error (.signal .invalidOperation) → ∃ t w, write v = .ok t ∧
        (∃ (s : Sentence) (a : AmountText), s.text = text.toList ∧
          ({ s with amount := a } : Sentence).text = t.toList ∧ (t = text ↔ s.amount.Canonical)) ∧
        accepts (.string t) ∧ scan t = .ok w ∧ Value.equal false w v = .ok true ∧ write w = .ok t ∧
        ∀ text' v' t', scan text' = .ok v' → write v' = .ok t' →
          (Value.equal false v v' = .ok true ↔ t = t')) := by
  obtain ⟨v, hv⟩ := accepts_iff.1 h
  obtain ⟨s, hs, rfl⟩ := scan_eq_ok_iff.1 hv
  refine ⟨s.value, hv, ?_, ?_⟩
  · rw [← s.not_writable_iff, s.write_value]
    split <;> simp_all
  intro hok
  have hw : Writable s.value.amount := by
    by_contra hw
    exact hok (by rw [s.write_value, if_neg hw])
  have hscan : scan (.ofList s.normal.text) = .ok s.normal.value :=
    scan_eq_ok_iff.2 ⟨s.normal, String.toList_ofList.symm, rfl⟩
  have hequal : Value.equal false s.normal.value s.value = .ok true :=
    Sentence.equal_value_iff.2 s.normal_normal
  refine ⟨.ofList s.normal.text, s.normal.value, by rw [s.write_value, if_pos hw],
    ⟨s, .ofCents s.amount.total, hs, String.toList_ofList.symm, ?_⟩,
    accepts_iff.2 ⟨_, hscan⟩, hscan, hequal, ?_, ?_⟩
  · rw [← String.toList_inj, String.toList_ofList, ← hs, Sentence.text_injective.eq_iff,
      Sentence.normal_eq_iff]
  · rw [s.normal.write_value, if_pos (s.writable_normal.2 hw), s.normal_normal]
  · intro text' v' t' hv' ht'
    obtain ⟨s', hs', rfl⟩ := scan_eq_ok_iff.1 hv'
    rw [s'.write_value] at ht'
    split at ht'
    · obtain rfl := Except.ok.inj ht'
      rw [Sentence.equal_value_iff, ← String.toList_inj, String.toList_ofList, String.toList_ofList,
        Sentence.text_injective.eq_iff]
    · cases ht'

theorem write_scan_misplaced_comma : accepts (.string "$01,23.40@2020[CPI:1913]") ∧
    ∃ v w, scan "$01,23.40@2020[CPI:1913]" = .ok v ∧ write v = .ok "$123.40@2020[CPI:1913]" ∧
      scan "$123.40@2020[CPI:1913]" = .ok w ∧ Value.equal false w v = .ok true ∧
      write w = .ok "$123.40@2020[CPI:1913]" := by
  have haccepts : accepts (.string "$01,23.40@2020[CPI:1913]") := by rfl
  obtain ⟨v, hv, -, hok⟩ := write_scan haccepts
  have hwrite : write v = .ok "$123.40@2020[CPI:1913]" := by
    cases hv.symm.trans (by rfl : scan "$01,23.40@2020[CPI:1913]" =
      .ok ⟨.finite false 12340 (-2), .usd, .yearly 2020, some ⟨"CPI", .yearly 1913, _⟩⟩)
    rfl
  obtain ⟨t, w, ht, -, -, hw, hequal, hagain, -⟩ := hok (by simp [hwrite])
  cases hwrite.symm.trans ht
  exact ⟨haccepts, v, w, hv, hwrite, hw, hequal, hagain⟩

end DatedMoney.Notation
