import DatedMoney.Proofs.Conversion.Chain
import DatedMoney.Proofs.Method.Regular
import DatedMoney.Proofs.Method.SameYear

/-!
# Notation converted within its year

A conversion within a year changes no amount of whole cents, so what stands before the bracket of
the notation that comes out is the normal form of what stood there before (`sameYear_identity`).
-/

namespace DatedMoney

namespace Notation

/-- The text up to its bracket, or all of it. -/
def beforeBracket (text : String) : String := .ofList (text.toList.takeWhile (· ≠ '['))

namespace Sentence

/-- The sentence without its origin. -/
def plain (s : Sentence) : Sentence := { s with origin := none }

theorem text_eq_plain (s : Sentence) : s.text = s.plain.text ++ originText s.origin := by
  simp [text, plain, originText, partAfter]

theorem bracket_notMem_plain (s : Sentence) : '[' ∉ s.plain.text := by
  have hstart := s.notMem_start (c := '[') (fun x => by cases x <;> decide) (by decide) (by decide)
  have hdate : '[' ∉ s.date.text := DateText.notMem_text (by decide) (by decide)
  intro h
  rcases List.mem_append.1 h with h | h
  · rcases List.mem_append.1 h with h | h
    · exact hstart h
    · rcases List.mem_cons.1 h with h | h
      · exact absurd h (by decide)
      · exact hdate h
  · exact List.not_mem_nil h

theorem takeWhile_text (s : Sentence) : s.text.takeWhile (· ≠ '[') = s.plain.text := by
  have hplain : ∀ c ∈ s.plain.text, decide (c ≠ '[') := by
    rintro c hc
    exact decide_eq_true fun h => s.bracket_notMem_plain (h ▸ hc)
  have horigin : (originText s.origin).takeWhile (· ≠ '[') = [] := by
    cases s.origin <;> rfl
  rw [text_eq_plain, List.takeWhile_append_of_pos hplain, horigin, List.append_nil]

theorem beforeBracket_eq {s : Sentence} {text : String} (h : s.text = text.toList) :
    beforeBracket text = .ofList s.plain.text := by
  rw [beforeBracket, ← h, takeWhile_text]

/-- What is written for a value begins with what is written for the value alone, without its
provenance. -/
theorem write_plain {s : Sentence} (hwritable : Writable s.value.amount) {w : Value}
    (hw : Legible w) (hamount : w.amount.toRat = s.value.amount.toRat)
    (hcurrency : w.currency = s.currency) (hdate : w.date = s.date.value) :
    write s.plain.value = .ok (beforeBracket (.ofList (written w))) := by
  obtain ⟨s', hs', hcanonical, hequal⟩ := hw.exists_sentence
  obtain ⟨hamount', hcurrency', hdate', -⟩ :=
    (Value.equal_finite s'.amount.isFinite_value hw.finite).1 hequal
  have hplain : Value.equal false s'.plain.value s.plain.value = .ok true :=
    (Value.equal_finite s'.amount.isFinite_value s.amount.isFinite_value).2
      ⟨hamount'.trans hamount, hcurrency'.trans hcurrency, hdate'.trans hdate, rfl⟩
  have hnormal : s'.plain = s.plain.normal :=
    (normal_eq_iff (s := s'.plain).2 hcanonical).symm.trans (equal_value_iff.1 hplain)
  have hwritable : Writable s.plain.value.amount := hwritable
  rw [write_value, if_pos hwritable, ← hnormal,
    beforeBracket_eq (hs'.trans String.toList_ofList.symm)]

end Sentence
end Notation

namespace Conversion
open Decimal Notation

/-- Within a year, notation is converted to notation that begins with the normal form of what stood
before the bracket. -/
theorem convert_same_year {text : String} {v : Value} (hv : scan text = .ok v)
    (hlt : v.amount.toRat < 10 ^ 26) {name : String} (hname : name ∈ Registry.reference.names) :
    ∃ t, convert .reference (.string text) name v.date = .ok t ∧
      scan (beforeBracket text) = .ok v.natural ∧ write v.natural = .ok (beforeBracket t) := by
  obtain ⟨s, hs, rfl⟩ := scan_eq_ok_iff.1 hv
  have hlegible := s.legible
  obtain ⟨table, ht, rfl⟩ := Registry.mem_names_reference.1 hname
  obtain ⟨a, ha, hafinite, hlow, -⟩ := Index.valueFor_reference ht s.value.date.year
  have hsize : |s.value.amount.toRat| < 10 ^ 26 := by rwa [abs_of_nonneg hlegible.nonneg]
  obtain ⟨d, hresult, hvalue⟩ := Method.apply_same_year_cents (Index.name_ne ht) ha hafinite
    (by linarith) hlegible.finite rfl hlegible.cents hsize
  rw [← Registry.transform_reference ht] at hresult
  have hw := Registry.legible_of_transform hname hlegible hlegible.year hresult
  have hwrite := Registry.write_of_transform hname hlegible.finite hlegible.shortYears.1 hresult
  rw [if_pos hlegible.shortYears.1] at hwrite
  have hwritable : Writable s.value.amount := hlegible.writable_iff.2 (.inr hlt)
  refine ⟨_, ?_, ?_, Sentence.write_plain hwritable hw hvalue rfl rfl⟩
  · rw [convert_eq hv, hresult, Except.ok_bind, hwrite]
  · rw [Sentence.beforeBracket_eq hs]
    exact scan_eq_ok_iff.2 ⟨s.plain, String.toList_ofList.symm, rfl⟩

/-- A conversion within a year leaves money as it is. By any table with a value for the year, other
than zero, an amount is only rounded to cents, or has too many of them and fails, and whole cents
below `10 ^ 26` come back. So notation is converted to notation that begins with the normal form of
what stood before the bracket. -/
theorem sameYear_identity :
    (∀ (t : Index.Table) (name : String) (hname : name ≠ "") (v : Value) (a : Decimal)
        (target : Date), t.valueFor v.date.year = .ok a → a.isFinite → a.toRat ≠ 0 →
        v.amount.isFinite → Method.Moderate v.amount.toRat → target.year = v.date.year →
        let result := (Method.index t name).apply v target
        let carried (d : Decimal) : Value := ⟨d, v.currency, target, some ⟨name, v.date, hname⟩⟩
        ((∃ d, v.amount.toCents = .ok d ∧ result = .ok (carried d)) ∨
          v.amount.toCents = .error .invalidOperation ∧
            result = .error (.signal .invalidOperation)) ∧
        ((∃ n : ℤ, v.amount.toRat * 100 = n) → |v.amount.toRat| < 10 ^ 26 →
          ∃ d, result = .ok (carried d) ∧ d.toRat = v.amount.toRat)) ∧
      ∀ (text : String) (v : Value) (name : String), scan text = .ok v →
        v.amount.toRat < 10 ^ 26 → name ∈ Registry.reference.names →
        ∃ t, convert .reference (.string text) name v.date = .ok t ∧
          scan (beforeBracket text) = .ok v.natural ∧ write v.natural = .ok (beforeBracket t) := by
  refine ⟨?values, fun text v name hv hlt hname => convert_same_year hv hlt hname⟩
  intro t name hname v a target ha hfinite hne hv hdigits hyear result carried
  exact ⟨Method.apply_same_year hname ha hfinite hne hv hyear hdigits,
    Method.apply_same_year_cents hname ha hfinite hne hv hyear⟩

/-- A third of the way from one to two the value for the year is not exact, and still its quotient
with itself is. -/
theorem sameYear_identity_thirds :
    let table : Index.Table := .ofPairs "thirds" [(2000, 1), (2003, 2)]
    let v : Value := ⟨.finite false 12345 (-3), .usd, .yearly 2001, none⟩
    let may : Date := .monthly 2020 ⟨5, by decide, by decide⟩
    table.valueFor 2001 = .ok (.finite false 1333333333333333333333333333 (-27)) ∧
      (∃ d, v.amount.toCents = .ok d ∧ (Method.index table).apply v (Date.yearly 2001) =
        .ok ⟨d, .usd, .yearly 2001, some ⟨"thirds", .yearly 2001, by decide⟩⟩) ∧
      ∃ w t, scan "$01,23.40@2020-05[CPI:1913]" = .ok w ∧ w.date = may ∧
        convert .reference (.string "$01,23.40@2020-05[CPI:1913]") "GOLD" may = .ok t ∧
        write w.natural = .ok (beforeBracket t) := by
  intro table v may
  have hvalue : (Index.Table.ofPairs "thirds" [(2000, 1), (2003, 2)]).valueFor 2001 =
      .ok (.finite false 1333333333333333333333333333 (-27)) := by rfl
  have hamount : v.amount.toRat = 12345 * 10 ^ (-3 : Int) := toRat_nonnegative ..
  have hnonzero : (Decimal.finite false 1333333333333333333333333333 (-27)).toRat ≠ 0 :=
    mt (toRat_eq_zero_iff ..).1 (by decide)
  obtain ⟨hvalues, htexts⟩ := sameYear_identity
  obtain ⟨hcents, -⟩ := hvalues table "thirds" (by decide) v _ (.yearly 2001) hvalue rfl hnonzero
    rfl ⟨12345, -3, by exact_mod_cast hamount, by decide, by decide, by decide⟩ rfl
  have hok : v.amount.toCents = .ok (.finite false 1235 (-2)) := by rfl
  obtain ⟨w, hscan, hdate, hw⟩ : ∃ w, scan "$01,23.40@2020-05[CPI:1913]" = .ok w ∧ w.date = may ∧
      w.amount = .finite false 12340 (-2) := ⟨_, by rfl, rfl, rfl⟩
  have hlt : w.amount.toRat < 10 ^ 26 := by
    rw [hw, toRat_nonnegative]
    norm_num
  obtain ⟨t, ht, -, hwrite⟩ := htexts _ w "GOLD" hscan hlt (by decide +kernel)
  refine ⟨hvalue, hcents.resolve_right ?_, w, t, hscan, hdate, hdate ▸ ht, hwrite⟩
  rintro ⟨herror, -⟩
  cases hok.symm.trans herror

/-- A method without a name has no provenance to give, not even within a year. -/
theorem sameYear_identity_nameless :
    Method.decade.valueFor 2000 = .ok 100 ∧ (100 : Decimal).toRat ≠ 0 ∧
      Method.Moderate (100 : Decimal).toRat ∧
      (100 : Decimal).toCents = .ok (.finite false 10000 (-2)) ∧
      (Method.index Method.decade "").apply ⟨100, .usd, .yearly 2000, none⟩ (Date.yearly 2000) =
        .error (.invalid .provenance [⟨["method"], .emptyText⟩]) := by
  have h100 : (100 : Decimal).toRat = 100 := by
    rw [show (100 : Decimal) = .finite false 100 0 from rfl, toRat_nonnegative]
    norm_num
  refine ⟨by rfl, by rw [h100]; norm_num, ?_, by rfl, by rfl⟩
  rw [h100]
  exact Method.moderate_of_cents ⟨10000, by norm_num⟩ (by norm_num)

end Conversion
end DatedMoney
