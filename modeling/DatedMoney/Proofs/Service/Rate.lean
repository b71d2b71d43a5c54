import DatedMoney.Proofs.Conversion.Rate
import DatedMoney.Proofs.Service.Congruence

/-!
# The rate in an answer

The rate that is printed in an answer leads from the amount of the original to the amount of the
result to the cent, as the rate of a report does (`rate_reproduces`).
-/

namespace DatedMoney.Service
open Conversion Decimal Notation

/-- The figures in an answer to a request for a conversion: the value that the original denotes, the
amount of the result, and the rate if it is not null. -/
structure Figures where
  original : Value
  amount : Decimal
  rate? : Option Decimal

namespace Figures

def readNumber? : Json → Option Decimal
  | .string text => ofText? text
  | _ => none

def readRate? : Json → Option (Option Decimal)
  | .null => some none
  | printed => (readNumber? printed).map some

def read? (body : Json) : Option Figures := do
  let original ← body.field? "original" >>= fun text => (ofJson text).toOption
  let amount ← body.field? "amount" >>= readNumber?
  let rate? ← body.field? "rate" >>= readRate?
  return ⟨original, amount, rate?⟩

theorem readRate?_ofOption {rate? : Option Decimal}
    (h : ∀ rate ∈ rate?, ofText? rate.toText = some rate) :
    readRate? (Json.ofOption (·.toJson) rate?) = some rate? := by
  cases rate? with
  | none => rfl
  | some rate => exact congrArg (Option.map some) (h rate rfl)

theorem read?_converted {v w u : Value} {m : String} {n : ℤ} {rate? : Option Decimal}
    (hu : scan (.ofList (written v)) = .ok u) (hw : w.amount.IsCents n) (hlt : n.natAbs < 10 ^ 28)
    (hrate : ∀ rate ∈ rate?, ofText? rate.toText = some rate) :
    read? (converted v w m rate?) = some ⟨u, w.amount, rate?⟩ := by
  have horiginal : (converted v w m rate?).field? "original" =
      some (.string (.ofList (written v))) := rfl
  have hamount : (converted v w m rate?).field? "amount" = some (.string w.amount.toText) := rfl
  have hfield : (converted v w m rate?).field? "rate" =
      some (Json.ofOption (·.toJson) rate?) := rfl
  simp only [read?, horiginal, hamount, hfield, Option.bind_some, Option.bind_eq_bind, ofJson, hu,
    readNumber?, hw.ofText?_toText hlt, readRate?_ofOption hrate, Except.mapError, Except.toOption,
    Option.pure_def]

end Figures

/-- The figures of an answer. -/
theorem exists_figures {env : Environment} {t : Transform} {body : Json}
    (h : transform .reference env t = .ok ⟨200, body⟩) :
    ∃ text v u amount rate?, t.source = .text text ∧ scan text = .ok v ∧
      Figures.read? body = some ⟨u, amount, rate?⟩ ∧ Value.equal false u v = .ok true ∧
      Reproduces v.amount amount rate? ∧ Reproduces u.amount amount rate? := by
  obtain ⟨text, m, v, w, rate?, hsource, -, hv, hreport, hwritable, rfl⟩ :=
    exists_report_of_transform_eq_ok h
  have hlegible := legible_of_scan hv
  obtain ⟨original, u, horiginal, hu, hufinite, hequal⟩ := hlegible.reads_back hwritable
  obtain ⟨-, rfl⟩ := (write_eq_ok_iff hlegible.finite).1 horiginal
  obtain ⟨-, hw, hreproduces⟩ := details_reproduces hlegible.finite hreport
  obtain ⟨n, hn, hlt⟩ :=
    Registry.amount_of_transform (Registry.mem_names_of_transform hw) hlegible.finite hw
  obtain ⟨w', rate', hw', hrate, heq⟩ := details_eq_ok hreport
  cases heq
  refine ⟨text, v, u, w.amount, rate?, hsource, hv, Figures.read?_converted hu hn hlt ?_, hequal,
    hreproduces, ?_⟩
  · rintro rate ⟨⟩
    exact ofText?_impliedRate hlegible.finite hn.isFinite hrate
  · have hamount := ((Value.equal_finite hufinite hlegible.finite).1 hequal).1
    have hsign := (negative_of_scan hv).trans (negative_of_scan hu).symm
    exact hreproduces.congr hlegible.finite hufinite hamount.symm hsign

/-- A report by a reference method has no rate exactly if the amount is zero. Otherwise the amount
at that rate, rounded to cents, is the very amount of the result, unless that is `10 ^ 24` or more.
The same holds of what is read from an answer of the service: of its rate and its amount, with the
amount that was sent and with that of the original in the answer. -/
theorem rate_reproduces :
    (∀ (v : Value) (name : String) (target : Date) (report : Report), v.amount.isFinite →
      details .reference v name target = .ok report →
      report.source = v ∧ Registry.reference.transform v name target = .ok report.result ∧
        Reproduces v.amount report.result.amount report.rate) ∧
    ∀ (env : Environment) (req : Request) (t : Transform) (body : Json), req.Asks .transform →
      (req.json >>= Transform.ofJson) = .ok t → answer .reference env req = .ok ⟨200, body⟩ →
      ∃ text v u amount rate?, t.source = .text text ∧ scan text = .ok v ∧
        Figures.read? body = some ⟨u, amount, rate?⟩ ∧ Value.equal false u v = .ok true ∧
        Reproduces v.amount amount rate? ∧ Reproduces u.amount amount rate? := by
  refine ⟨fun v name target report hv h => details_reproduces hv h,
    fun env req t body hroute ht h => ?_⟩
  rw [answer_transform hroute ht] at h
  exact exists_figures (eq_ok_of_reportDomain h)

/-- A loss of half a cent, and three dollars, whose rate has no end. -/
theorem rate_reproduces_third :
    let loss : Decimal := .finite true 5 (-3)
    let third : Decimal := .finite false 7996666666666666666666666667 (-27)
    let post : Request := ⟨"POST", "/api/v1/transform", [],
      "\x7b\"notation\":\"$3@1970\",\"target_year\":2024\x7d", 100,
      "2024-06-30T12:00:00+00:00"⟩
    (∃ report,
      details .reference ⟨loss, .usd, .yearly 1970, none⟩ "CPI" (Date.yearly 2024) = .ok report ∧
      report.rate = some (.finite false 8 0) ∧
      loss.atRate (.finite false 8 0) = .ok report.result.amount) ∧
    ∃ body u, answer .reference [] post = .ok ⟨200, body⟩ ∧
      Figures.read? body = some ⟨u, .finite false 2399 (-2), some third⟩ ∧
      u.amount.atRate third = .ok (.finite false 2399 (-2)) := by
  intro loss third post
  refine ⟨?loss, ?third⟩
  case loss =>
    obtain ⟨report, h, hrate, hresult⟩ : ∃ report,
        details .reference ⟨.finite true 5 (-3), .usd, .yearly 1970, none⟩ "CPI"
          (Date.yearly 2024) = .ok report ∧
        report.rate = some (.finite false 8 0) ∧ report.result.amount = .finite true 4 (-2) :=
      ⟨_, by rfl, by rfl, by rfl⟩
    obtain ⟨-, -, hreproduces⟩ := rate_reproduces.1 _ _ _ _ (by rfl) h
    refine ⟨report, h, hrate, hreproduces.atRate _ hrate ?_⟩
    rw [hresult, abs_toRat_finite]
    norm_num
  case third =>
    have hroute : post.Asks .transform := ⟨by decide +kernel, by decide +kernel⟩
    have ht : (post.json >>= Transform.ofJson) = .ok ⟨.text "$3@1970", none, .yearly 2024⟩ :=
      Except.toOption_eq_some_iff.1 (by decide +kernel)
    obtain ⟨body, ha, hread⟩ : ∃ body,
        reportDomain post.time (transform .reference [] ⟨.text "$3@1970", none, .yearly 2024⟩) =
          .ok ⟨200, body⟩ ∧
        (Figures.read? body).map (fun f => (f.amount, f.rate?)) =
          some (.finite false 2399 (-2), some third) := ⟨_, by rfl, by rfl⟩
    have h : answer .reference [] post = .ok ⟨200, body⟩ :=
      (answer_transform hroute ht ..).trans ha
    obtain ⟨text, v, u, amount, rate?, -, -, hfigures, -, -, hreproduces⟩ :=
      rate_reproduces.2 [] post _ body hroute ht h
    rw [hfigures] at hread
    cases hread
    refine ⟨body, u, h, hfigures, hreproduces.atRate _ rfl ?_⟩
    rw [abs_toRat_finite]
    norm_num

end DatedMoney.Service
