import DatedMoney.Proofs.Checking.Draft
import DatedMoney.Proofs.Notation.Written
import DatedMoney.Proofs.Value.Equality

/-!
# Reading what was written

Which values can be written, which of those can be read again, and what becomes of them
(`scan_write`). A method of another form, or a year of another length, makes the text unreadable,
but never that of another value.
-/

namespace DatedMoney.Notation
open Decimal

/-- The values for which there is a place in the grammar. -/
structure Readable (v : Value) : Prop where
  amount : 0 ≤ v.amount.rounded
  year : 0 ≤ v.date.year ∧ v.date.year ≤ 9999
  method : ∀ p ∈ v.provenance, ∃ m : MethodText, m.string = p.method
  source : ∀ p ∈ v.provenance, 0 ≤ p.source.year ∧ p.source.year ≤ 9999

theorem Readable.shortYears {v : Value} (h : Readable v) : ShortYears v :=
  ⟨isShort_of_four_digits h.year.1 h.year.2,
    fun p hp => isShort_of_four_digits (h.source p hp).1 (h.source p hp).2⟩

theorem writable_iff {a : Decimal} (h : a.isFinite) :
    Writable a ↔ (∃ n : ℤ, a.toRat = n) ∨ |a.rounded| < 10 ^ 26 := by
  have hlt : |a.rounded| < 10 ^ 26 ↔ a.nearestCents.natAbs < 10 ^ 28 := by
    rw [rounded, abs_div, abs_of_pos (by norm_num : (0 : ℚ) < 100), div_lt_iff₀ (by norm_num),
      ← Int.cast_abs, Int.abs_eq_natAbs, Int.cast_natCast]
    generalize a.nearestCents.natAbs = n
    norm_num
  rw [Writable, isWhole_iff h, hlt]

/-- The values with a place in the grammar are those for which a sentence is written. -/
theorem exists_text_iff {v : Value} : (∃ s : Sentence, s.text = written v) ↔ Readable v := by
  simp only [Sentence.text_eq_iff]
  constructor
  · rintro ⟨s, -, ⟨hamount, -⟩, hdate, horigin⟩
    have hp : ∀ p ∈ v.provenance, ∃ (m : MethodText) (d : DateText),
        m.string = p.method ∧ d.value = p.source := by
      intro p h
      obtain ⟨⟨m, d⟩, -, rfl⟩ := Option.map_eq_some_iff.1 (horigin.trans h)
      exact ⟨m, d, rfl, rfl⟩
    refine ⟨rounded_nonneg_iff.2 hamount, hdate ▸ s.date.year_value, fun p h => ?_, fun p h => ?_⟩
    · obtain ⟨m, d, hm, -⟩ := hp p h
      exact ⟨m, hm⟩
    · obtain ⟨m, d, -, hd⟩ := hp p h
      exact hd ▸ d.year_value
  · rintro ⟨hamount, hyear, hmethod, hsource⟩
    obtain ⟨d, hd⟩ := DateText.exists_value hyear.1 hyear.2
    obtain ⟨o, ho⟩ : ∃ o, Sentence.originValue o = v.provenance := by
      cases hp : v.provenance with
      | none => exact ⟨none, rfl⟩
      | some p =>
        obtain ⟨m, hm⟩ := hmethod p hp
        obtain ⟨d, hd⟩ := DateText.exists_value (hsource p hp).1 (hsource p hp).2
        obtain ⟨method, source, hne⟩ := p
        subst hm hd
        exact ⟨some (m, d), rfl⟩
    let a := AmountText.ofCents v.amount.nearestCents.natAbs
    exact ⟨⟨v.currency.readBack, a, d, o, v.currency.readBack_mem⟩, rfl,
      ⟨rounded_nonneg_iff.1 hamount, rfl⟩, hd, ho⟩

/-- What is read for a value that was written. -/
theorem scan_written {v w : Value} (h : scan (.ofList (written v)) = .ok w) :
    w.amount.isFinite ∧ w.amount.toRat = v.amount.rounded ∧ w.currency = v.currency.readBack ∧
      w.date = v.date ∧ w.provenance = v.provenance := by
  obtain ⟨s, hs, rfl⟩ := scan_eq_ok_iff.1 h
  rw [String.toList_ofList] at hs
  obtain ⟨hc, ⟨hn, ha⟩, hd, ho⟩ := Sentence.text_eq_iff.1 hs
  refine ⟨s.amount.isFinite_value, ?_, hc, hd, ho⟩
  have hrat : s.value.amount.toRat = s.amount.total / 100 := s.amount.toRat_value
  rw [hrat, ha, AmountText.total_ofCents, rounded, Nat.cast_natAbs, abs_of_nonneg hn]

theorem write_eq_ok_iff {v : Value} (h : v.amount.isFinite) {t : String} :
    write v = .ok t ↔ (Writable v.amount ∧ ShortYears v) ∧ t = .ofList (written v) := by
  rw [write_finite h]
  by_cases hw : Writable v.amount
  · by_cases hyears : ShortYears v
    · rw [if_pos hw, if_pos hyears, Except.ok.injEq, and_iff_right ⟨hw, hyears⟩, eq_comm]
    · simp [hw, hyears]
  · simp [hw]

/-- Whole amounts can be written, and others with up to 26 digits before the point, if the years
have not too many digits. The text can be read again if there is a place for the value in the
grammar, and then nothing is lost but fractions of cents and the difference between yuan and yen. -/
theorem scan_write {d : Checking.Draft} {v : Value} (h : d.check = .ok v) :
    let written := (∃ n : ℤ, v.amount.toRat = n) ∨ |v.amount.rounded| < 10 ^ 26
    ((∃ t, write v = .ok t) ↔ written ∧ ShortYears v) ∧
      (¬written → write v = .error (.signal .invalidOperation)) ∧
      (written → ¬ShortYears v → write v = .error .tooManyDigits) ∧
      (∀ t, write v = .ok t → ((∃ w, scan t = .ok w) ↔ Readable v) ∧
        ∀ w, scan t = .ok w → w.amount.toRat = v.amount.rounded ∧
          w.currency = v.currency.readBack ∧ w.date = v.date ∧ w.provenance = v.provenance) ∧
      ((∃ t w, write v = .ok t ∧ scan t = .ok w ∧ Value.equal false w v = .ok true) ↔
        written ∧ Readable v ∧ (∃ k : ℤ, v.amount.toRat * 100 = k) ∧ v.currency ≠ .cny) := by
  intro written
  have hfinite := Checking.Draft.isFinite_of_check h
  have hwritable : written ↔ Writable v.amount := (writable_iff hfinite).symm
  have hread : (∃ w, scan (.ofList (Notation.written v)) = .ok w) ↔ Readable v := by
    rw [← exists_text_iff]
    constructor
    · rintro ⟨w, hw⟩
      obtain ⟨s, hs, -⟩ := scan_eq_ok_iff.1 hw
      exact ⟨s, hs.trans String.toList_ofList⟩
    · rintro ⟨s, hs⟩
      exact ⟨s.value, scan_eq_ok_iff.2 ⟨s, hs.trans String.toList_ofList.symm, rfl⟩⟩
  rw [hwritable, ← rounded_eq_iff, ← v.currency.readBack_eq_iff]
  simp only [write_eq_ok_iff hfinite]
  refine ⟨?_, ?_, ?_, ?_, ?_⟩
  · exact ⟨fun ⟨t, hw, _⟩ => hw, fun hw => ⟨_, hw, rfl⟩⟩
  · exact fun hw => by rw [write_finite hfinite, if_neg hw]
  · exact fun hw hyears => by rw [write_finite hfinite, if_pos hw, if_neg hyears]
  · rintro t ⟨-, rfl⟩
    exact ⟨hread, fun w hw => (scan_written hw).2⟩
  · constructor
    · rintro ⟨t, w, ⟨⟨hw, -⟩, rfl⟩, hscan, hequal⟩
      obtain ⟨hfin, ha, hc, -⟩ := scan_written hscan
      obtain ⟨ha', hc', -⟩ := (Value.equal_finite hfin hfinite).1 hequal
      exact ⟨hw, hread.1 ⟨w, hscan⟩, ha.symm.trans ha', hc.symm.trans hc'⟩
    · rintro ⟨hw, hreadable, hcents, hcurrency⟩
      obtain ⟨w, hscan⟩ := hread.2 hreadable
      obtain ⟨hfin, ha, hc, hd, hp⟩ := scan_written hscan
      refine ⟨_, w, ⟨⟨hw, hreadable.shortYears⟩, rfl⟩, hscan,
        (Value.equal_finite hfin hfinite).2 ?_⟩
      exact ⟨ha.trans hcents, hc.trans hcurrency, hd, hp⟩

theorem scan_write_fraction_of_cent :
    ∃ v w, Checking.Draft.check ⟨.string "0.125", .string "USD", ⟨.int 2000, .int 7, .null⟩,
        some ⟨.string "CPI", ⟨.int 1913, .null, .null⟩⟩⟩ = .ok v ∧
      write v = .ok "$0.13@2000-07[CPI:1913]" ∧ scan "$0.13@2000-07[CPI:1913]" = .ok w ∧
      w.amount.toRat = v.amount.rounded ∧ w.provenance = v.provenance := by
  obtain ⟨v, hcheck, hwrite⟩ : ∃ v,
      Checking.Draft.check ⟨.string "0.125", .string "USD", ⟨.int 2000, .int 7, .null⟩,
        some ⟨.string "CPI", ⟨.int 1913, .null, .null⟩⟩⟩ = .ok v ∧
      write v = .ok "$0.13@2000-07[CPI:1913]" :=
    ⟨⟨.finite false 125 (-3), .usd, .monthly 2000 ⟨7, by decide, by decide⟩,
      some ⟨"CPI", .yearly 1913, by decide⟩⟩, by rfl, by rfl⟩
  obtain ⟨w, hscan⟩ : ∃ w, scan "$0.13@2000-07[CPI:1913]" = .ok w := ⟨_, by rfl⟩
  obtain ⟨-, -, -, hread, -⟩ := scan_write hcheck
  obtain ⟨ha, -, -, hp⟩ := (hread _ hwrite).2 w hscan
  exact ⟨v, w, hcheck, hwrite, hscan, ha, hp⟩

/-- Yuan are read as yen, whole or not. -/
theorem yuan_read_as_yen :
    let d : Checking.Draft := ⟨.int 100, .string "CNY", ⟨.int 2000, .null, .null⟩, none⟩
    let v : Value := ⟨.finite false 100 0, .cny, .yearly 2000, none⟩
    d.check = .ok v ∧ (∃ n : ℤ, v.amount.toRat = n) ∧ Readable v ∧
      (∃ k : ℤ, v.amount.toRat * 100 = k) ∧
      write v = .ok "¥100@2000" ∧ scan "¥100@2000" = .ok { v with currency := .jpy } ∧
      Value.equal false { v with currency := .jpy } v = .ok false := by
  have hrat : (Decimal.finite false 100 0).toRat = 100 := by simp [toRat, signed]
  dsimp only
  refine ⟨by rfl, ⟨100, by rw [hrat]; rfl⟩, ⟨?_, by decide, by simp, by simp⟩, ⟨10000, ?_⟩,
    by rfl, by rfl, by rfl⟩
  · rw [rounded_eq_iff.2 ⟨10000, by rw [hrat]; norm_num⟩, hrat]
    norm_num
  · rw [hrat]
    norm_num

end DatedMoney.Notation
