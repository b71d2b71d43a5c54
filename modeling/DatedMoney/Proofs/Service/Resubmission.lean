import DatedMoney.Proofs.Decimal.Printed
import DatedMoney.Proofs.Service.Outcome

/-!
# Answers as requests

The notation in the answer to a request for a conversion can be sent again, and denotes what the
answer says (`answer_reads`). The one exception is a result at a year that is not of four digits,
which has no notation that could be read.
-/

namespace DatedMoney.Service
open Decimal Notation

/-! ## What an answer comes from -/

/-- An answer with a value does not come from an error. -/
theorem eq_ok_of_reportDomain {time : String} {a : Except Error Response} {body : Json}
    (h : reportDomain time a = .ok ⟨200, body⟩) : a = .ok ⟨200, body⟩ := by
  cases a with
  | ok resp => exact h
  | error e =>
    cases e with
    | domain e =>
      have hstatus : status e = 200 := congrArg Response.status (Except.ok.inj h)
      cases e <;> cases hstatus
    | _ => cases h

/-- A string that is no text has no answer. -/
theorem exists_text_of_transform_eq_ok {r : Registry} {env : Environment} {t : Transform}
    {resp : Response} (h : transform r env t = .ok resp) : ∃ text m v, t.source = .text text ∧
      t.methodIn env = .ok (.text m) ∧ scan text = .ok v := by
  obtain ⟨method, hm, h⟩ := Except.bind_eq_ok_iff.1 h
  cases hsource : t.source with
  | halved codes half =>
    rw [hsource] at h
    cases h
  | text text =>
    rw [hsource] at h
    obtain ⟨v, hv, h⟩ := Except.bind_eq_ok_iff.1 h
    cases method with
    | halved codes half => cases h
    | text m => exact ⟨text, m, v, rfl, hm, Except.mapError_eq_ok_iff.1 hv⟩

/-- Behind an answer stands a report. -/
theorem exists_report_of_transform_eq_ok {env : Environment} {t : Transform} {body : Json}
    (h : transform .reference env t = .ok ⟨200, body⟩) :
    ∃ text m v w rate, t.source = .text text ∧ t.methodIn env = .ok (.text m) ∧
      scan text = .ok v ∧ Conversion.details .reference v m t.target = .ok ⟨v, w, m, rate⟩ ∧
      Writable v.amount ∧ body = converted v w m rate := by
  obtain ⟨text, m, v, hsource, hm, hv⟩ := exists_text_of_transform_eq_ok h
  rw [transform_eq hm hsource hv rfl] at h
  obtain ⟨report, hreport, h⟩ := Except.bind_eq_ok_iff.1 h
  obtain ⟨original, horiginal, h⟩ := Except.bind_eq_ok_iff.1 h
  obtain ⟨result, hresult, h⟩ := Except.bind_eq_ok_iff.1 h
  have hfinite := (legible_of_scan hv).finite
  obtain ⟨w, rate, hw, -, rfl⟩ := Conversion.details_eq_ok hreport
  have hwfinite :=
    Registry.isFinite_of_transform (Registry.mem_names_of_transform hw) hfinite hw
  obtain ⟨⟨hwritable, -⟩, rfl⟩ := (write_eq_ok_iff hfinite).1 horiginal
  obtain ⟨-, rfl⟩ := (write_eq_ok_iff hwfinite).1 hresult
  cases h
  exact ⟨text, m, v, w, rate, hsource, hm, hv, hreport, hwritable, rfl⟩

/-- Behind an answer stands a value that is carried over. -/
theorem exists_of_transform_eq_ok {env : Environment} {t : Transform} {body : Json}
    (h : transform .reference env t = .ok ⟨200, body⟩) :
    ∃ text m v w rate, t.source = .text text ∧ t.methodIn env = .ok (.text m) ∧
      scan text = .ok v ∧ m ∈ Registry.reference.names ∧
      Registry.reference.transform v m t.target = .ok w ∧ Writable v.amount ∧
      body = converted v w m rate := by
  obtain ⟨text, m, v, w, rate, hsource, hm, hv, hreport, hwritable, rfl⟩ :=
    exists_report_of_transform_eq_ok h
  obtain ⟨w', rate', hw, -, heq⟩ := Conversion.details_eq_ok hreport
  cases heq
  exact ⟨text, m, v, w, rate, hsource, hm, hv, Registry.mem_names_of_transform hw, hw, hwritable,
    rfl⟩

/-! ## What can be read from it -/

/-- How the answer to a request for a conversion is read if it is sent again; `v` is the value that
was asked about and `m` the method. -/
structure Reads (t : Transform) (m : String) (v : Value) (body : Json) : Prop where
  method : body.field? "method" = some (.string m)
  original : ∃ text u, body.field? "original" = some (.string text) ∧ accepts (.string text) ∧
    scan text = .ok u ∧ Value.equal false u v = .ok true ∧ write u = .ok text
  result : ∃ text printed a, body.field? "result" = some (.string text) ∧
    body.field? "amount" = some (.string printed) ∧ ofText? printed = some a ∧ a.isFinite ∧
    (accepts (.string text) ↔ 0 ≤ t.target.year ∧ t.target.year ≤ 9999) ∧
    ∀ u, scan text = .ok u → u.amount.isFinite ∧ u.amount.toRat = a.toRat ∧
      u.currency = v.currency ∧ u.date = t.target ∧
      ∃ p, u.provenance = some p ∧ p.method = m ∧ p.source = v.date

theorem answer_reads {env : Environment} {req : Request} (hroute : req.Asks .transform)
    {t : Transform} (ht : (req.json >>= Transform.ofJson) = .ok t) {body : Json}
    (h : answer .reference env req = .ok ⟨200, body⟩) :
    ∃ text m v, t.source = .text text ∧ t.methodIn env = .ok (.text m) ∧ scan text = .ok v ∧
      Reads t m v body := by
  rw [answer_of_asks hroute, answerRoute, ht] at h
  obtain ⟨text, m, v, w, rate, hsource, hm, hv, hname, hw, hwritable, rfl⟩ :=
    exists_of_transform_eq_ok (eq_ok_of_reportDomain h)
  have hlegible := legible_of_scan hv
  refine ⟨text, m, v, hsource, hm, hv, rfl, ?_, ?_⟩
  · obtain ⟨text, u, htext, hu, hufinite, hequal⟩ := hlegible.reads_back hwritable
    obtain ⟨-, rfl⟩ := (write_eq_ok_iff hlegible.finite).1 htext
    refine ⟨_, u, rfl, accepts_iff.2 ⟨u, hu⟩, hu, hequal, ?_⟩
    rw [write_congr hufinite hlegible.finite hequal, htext]
  · obtain ⟨n, hn, hlt⟩ := Registry.amount_of_transform hname hlegible.finite hw
    obtain ⟨hcurrency, hdate, p, hp, hmethod, hsource⟩ :=
      Registry.provenance_of_transform hname hlegible.finite hw
    refine ⟨_, _, w.amount, rfl, rfl, hn.ofText?_toText hlt, hn.isFinite, ?_, fun u hu => ?_⟩
    · rw [accepts_written_iff]
      constructor
      · intro hreadable
        rw [← hdate]
        exact hreadable.year
      · exact fun hyear => (Registry.legible_of_transform hname hlegible hyear hw).toReadable
    · obtain ⟨hfinite, hamount, hcurrency', hdate', hprovenance⟩ := scan_written hu
      have hrounded : w.amount.rounded = w.amount.toRat := by
        rw [rounded, hn.nearestCents_eq, hn.toRat_eq]
      refine ⟨hfinite, hamount.trans hrounded, ?_, hdate'.trans hdate, p, ?_, hmethod, hsource⟩
      · rw [hcurrency', hcurrency, v.currency.readBack_eq_iff]
        exact hlegible.currency
      · rw [hprovenance, hp]

/-- A year of five digits can be asked for, but not read. -/
theorem answer_reads_five_digit_year :
    let post : Request := ⟨"POST", "/api/v1/transform", [],
      "\x7b\"notation\":\"$1,000@1970\",\"target_year\":12024\x7d", 100,
      "2024-06-30T12:00:00+00:00"⟩
    ∃ body, answer .reference [] post = .ok ⟨200, body⟩ ∧
      body.field? "result" = some (.string "$7,997.42@12024[CPI:1970]") ∧
      ¬accepts (.string "$7,997.42@12024[CPI:1970]") := by
  intro post
  have hroute : post.Asks .transform := ⟨by decide +kernel, by decide +kernel⟩
  have ht : (post.json >>= Transform.ofJson) = .ok ⟨.text "$1,000@1970", none, .yearly 12024⟩ :=
    Except.toOption_eq_some_iff.1 (by decide +kernel)
  obtain ⟨body, ha, hresult⟩ : ∃ body,
      reportDomain post.time (transform .reference [] ⟨.text "$1,000@1970", none, .yearly 12024⟩) =
        .ok ⟨200, body⟩ ∧
      body.field? "result" = some (.string "$7,997.42@12024[CPI:1970]") := ⟨_, by rfl, by rfl⟩
  have h : answer .reference [] post = .ok ⟨200, body⟩ := by
    rw [answer_of_asks hroute, answerRoute, ht]
    exact ha
  obtain ⟨text, m, v, -, -, -, hreads⟩ := answer_reads hroute ht h
  obtain ⟨result, printed, a, htext, -, -, -, haccepts, -⟩ := hreads.result
  cases hresult.symm.trans htext
  exact ⟨body, h, hresult, mt haccepts.1 (by decide)⟩

end DatedMoney.Service
