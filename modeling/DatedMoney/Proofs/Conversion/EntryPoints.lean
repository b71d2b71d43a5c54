import DatedMoney.Proofs.Conversion.Chain
import DatedMoney.Proofs.Conversion.Report

/-!
# Three ways to ask for a conversion

A value can be converted as notation, with a report, or by each of several methods. The answers
agree (`entryPoints_agree`), but for a report and for a comparison the value itself must be
written too, and an amount that is not whole and has more than 26 digits before the point cannot.
-/

namespace DatedMoney.Conversion
open Decimal Notation

/-- A comparison of one method. -/
theorem compare_singleton (r : Registry) (v : Value) (name : String) (target : Date) :
    compare r v (some [name]) target = r.transform v name target >>= fun w =>
      write v >>= fun _ =>
        if Text.isShort target.year then .ok [(name, w)] else .error .tooManyDigits := by
  have hnames : ((some [name]).getD r.names).eraseDups = [name] := by simp [List.eraseDups_cons]
  have hyear : (Checking.LooseDate.ofDate target).year = .int target.year := rfl
  simp only [compare, hnames, List.mapM_cons, List.mapM_nil, hyear, Json.display?_int]
  cases r.transform v name target with
  | error e => rfl
  | ok w =>
    cases write v with
    | error e => rfl
    | ok text =>
      by_cases hshort : Text.isShort target.year
      · simp [hshort]
      · simp [hshort]
        rfl

/-- Notation is converted whenever the value can be carried over and the target year can be written.
A report and a comparison need notation of the value besides; then all three have the same result.
They have the same error too, unless neither the amount of the value nor the target year can be
written: notation is converted without a look at that amount. -/
theorem entryPoints_agree {text : String} {v : Value} (hv : scan text = .ok v) {name : String}
    (hname : name ∈ Registry.reference.names) (target : Date) :
    ((∃ report, details .reference v name target = .ok report) ↔
        (∃ t, convert .reference (.string text) name target = .ok t) ∧ Printable v.amount) ∧
      ((∃ results, compare .reference v (some [name]) target = .ok results) ↔
        (∃ t, convert .reference (.string text) name target = .ok t) ∧ Printable v.amount) ∧
      (∀ e, convert .reference (.string text) name target = .error e →
        details .reference v name target = .error e ∧
            compare .reference v (some [name]) target = .error e ∨
          e = .tooManyDigits ∧ ¬Printable v.amount ∧
            details .reference v name target = .error (.signal .invalidOperation) ∧
            compare .reference v (some [name]) target = .error (.signal .invalidOperation)) ∧
      ∀ t, convert .reference (.string text) name target = .ok t →
        (¬Printable v.amount →
          details .reference v name target = .error (.signal .invalidOperation) ∧
            compare .reference v (some [name]) target = .error (.signal .invalidOperation)) ∧
        (∀ report, details .reference v name target = .ok report →
          write report.result = .ok t ∧ report.source = v) ∧
        ∀ results, compare .reference v (some [name]) target = .ok results →
          ∃ w, results = [(name, w)] ∧ write w = .ok t := by
  have hlegible := legible_of_scan hv
  have hwritable : Writable v.amount ↔ Printable v.amount := hlegible.writable_iff
  have hwrite := write_short hlegible.finite hlegible.shortYears
  have hconvert := convert_eq hv .reference name target
  have hcompare := compare_singleton .reference v name target
  cases h : Registry.reference.transform v name target with
  | error e =>
    have hdetails : details .reference v name target = .error e := by
      rw [details, h, Except.error_bind]
    rw [h, Except.error_bind] at hconvert hcompare
    simp [hconvert, hcompare, hdetails]
  | ok w =>
    obtain ⟨rate, hdetails, -⟩ := details_reference hname hlegible h
    have hwritten := Registry.write_of_transform hname hlegible.finite hlegible.shortYears.1 h
    rw [h, Except.ok_bind, hwritten] at hconvert
    rw [h, Except.ok_bind, hwrite] at hcompare
    -- The three differ only here: a report and a comparison write the value itself besides.
    by_cases hp : Printable v.amount
    · rw [if_pos (hwritable.2 hp)] at hdetails hcompare
      rw [Except.ok_bind] at hcompare
      by_cases hyear : Text.isShort target.year
      · rw [if_pos hyear] at hconvert hdetails hcompare hwritten
        simp [hconvert, hcompare, hdetails, hp, hwritten]
      · rw [if_neg hyear] at hconvert hdetails hcompare
        simp [hconvert, hcompare, hdetails]
    · rw [if_neg (mt hwritable.1 hp)] at hdetails hcompare
      rw [Except.error_bind] at hcompare
      by_cases hyear : Text.isShort target.year
      · rw [if_pos hyear] at hconvert
        simp [hconvert, hcompare, hdetails, hp]
      · rw [if_neg hyear] at hconvert
        simp [hconvert, hcompare, hdetails, hp]

/-- An amount one cent above the 26 digits before the point that can be written with cents. -/
theorem entryPoints_agree_large_cents :
    ∃ v, scan "$100000000000000000000000000.01@2024" = .ok v ∧
      convert .reference (.string "$100000000000000000000000000.01@2024") "CPI"
        (Checking.LooseDate.ofDate (.yearly 1913)) =
          .ok "$3,190,460,844,344,183,048,662,584.60@1913[CPI:2024]" ∧
      details .reference v "CPI" (Checking.LooseDate.ofDate (.yearly 1913)) =
        .error (.signal .invalidOperation) ∧
      compare .reference v (some ["CPI"]) (Checking.LooseDate.ofDate (.yearly 1913)) =
        .error (.signal .invalidOperation) := by
  obtain ⟨v, hv, hfinite, hwhole, hsize⟩ : ∃ v,
      scan "$100000000000000000000000000.01@2024" = .ok v ∧ v.amount.isFinite ∧
        ¬v.amount.isWhole ∧ (10 : ℚ) ^ 26 ≤ v.amount.toRat := by
    refine ⟨⟨.finite false 10000000000000000000000000001 (-2), .usd, .yearly 2024, none⟩,
      by rfl, rfl, by decide, ?_⟩
    rw [toRat_nonnegative]
    norm_num
  have hconvert : convert .reference (.string "$100000000000000000000000000.01@2024") "CPI"
      (Checking.LooseDate.ofDate (.yearly 1913)) =
        .ok "$3,190,460,844,344,183,048,662,584.60@1913[CPI:2024]" := by rfl
  have hlarge : ¬Printable v.amount := by
    rw [Printable, ← isWhole_iff hfinite, not_or]
    exact ⟨hwhole, hsize.not_gt⟩
  have hname : "CPI" ∈ Registry.reference.names := by decide +kernel
  obtain ⟨-, -, -, hagree⟩ := entryPoints_agree hv hname (.yearly 1913)
  obtain ⟨hdetails, hcompare⟩ := (hagree _ hconvert).1 hlarge
  exact ⟨v, hv, hconvert, hdetails, hcompare⟩

end DatedMoney.Conversion
