import DatedMoney.Proofs.Conversion.Chain
import DatedMoney.Proofs.Method.Congruence
import DatedMoney.Proofs.Service.Resubmission
import DatedMoney.Proofs.Session.Amount

/-!
# Equal money has equal answers

Texts that are read as equal values are converted to the same text, and a request for the conversion
of one is answered as that for the other is, but for the way the rate is printed
(`answer_congr`).
-/

namespace DatedMoney

namespace Notation

theorem AmountText.negative_value (a : AmountText) : a.value.negative = false := by
  rw [AmountText.value]
  cases a.cents <;> rfl

/-- What is read has no sign. -/
theorem negative_of_scan {text : String} {v : Value} (h : scan text = .ok v) :
    v.amount.negative = false := by
  obtain ⟨s, -, rfl⟩ := scan_eq_ok_iff.1 h
  exact s.amount.negative_value

end Notation

open Decimal Notation

/-- Equal values that are read from texts are carried over to one and the same. -/
theorem Registry.transform_eq_of_scan {r : Registry} (hr : r.ByIndex) {text text' : String}
    {v w : Value} (hv : scan text = .ok v) (hw : scan text' = .ok w)
    (hequal : Value.equal false v w = .ok true) (name : String) (target : Checking.LooseDate) :
    r.transform v name target = r.transform w name target := by
  have hsame :=
    Value.sameMoney_of_equal (legible_of_scan hv).finite (legible_of_scan hw).finite hequal
  have hsign := (negative_of_scan hv).trans (negative_of_scan hw).symm
  rw [transform, transform]
  cases hm : r.get? name with
  | none => rfl
  | some m =>
    obtain ⟨t, own, rfl⟩ := hr name m hm
    exact hsame.apply_eq hsign t own target

/-- The same report on two values that are equal. The rates are equal as numbers. -/
structure Report.AgreesWith (R R' : Report) : Prop where
  finite : R.source.amount.isFinite ∧ R'.source.amount.isFinite
  source : Value.equal false R.source R'.source = .ok true
  result : R.result = R'.result ∧ R.result.amount.isFinite
  method : R.method = R'.method
  rate : Option.Rel SameNumber R.rate R'.rate

namespace Conversion

theorem convert_congr {r : Registry} (hr : r.ByIndex) {text text' : String}
    {v w : Value} (hv : scan text = .ok v) (hw : scan text' = .ok w)
    (hequal : Value.equal false v w = .ok true) (name : String) (target : Checking.LooseDate) :
    convert r (.string text) name target = convert r (.string text') name target := by
  rw [convert_eq hv, convert_eq hw, Registry.transform_eq_of_scan hr hv hw hequal]

theorem impliedRate_alike {a b c : Decimal} (ha : a.isFinite) (hb : b.isFinite) (hc : c.isFinite)
    (h : a.toRat = b.toRat) :
    Except.Alike (Option.Rel SameNumber) (impliedRate a c) (impliedRate b c) := by
  rw [impliedRate_eq ha, impliedRate_eq hb, h]
  split
  · exact .ok .none
  · rename_i h0
    have houtcome := Context.div_outcome Context.money_proper hc ha (h ▸ h0)
    have houtcome' := Context.div_outcome Context.money_proper hc hb h0
    rw [h] at houtcome
    exact (houtcome.alike houtcome').bind fun d d' hd => .ok (.some hd)

theorem details_alike {r : Registry} {v w : Value} (hv : v.amount.isFinite) (hw : w.amount.isFinite)
    (hequal : Value.equal false v w = .ok true) {name : String} {target : Checking.LooseDate}
    (htransform : r.transform v name target = r.transform w name target)
    (hfinite : ∀ u, r.transform v name target = .ok u → u.amount.isFinite) :
    Except.Alike Report.AgreesWith (details r v name target) (details r w name target) := by
  rw [details, details, ← htransform]
  refine (Except.Alike.of_eq rfl).with_ok.bind ?_
  rintro u _ ⟨rfl, hu, -⟩
  have hamount := ((Value.equal_finite hv hw).1 hequal).1
  refine ((impliedRate_alike hv hw (hfinite u hu) hamount).mapError _).bind ?_
  intro rate rate' hrate
  rw [write_congr hv hw hequal]
  refine (Except.Alike.of_eq rfl).bind fun _ _ _ => (Except.Alike.of_eq rfl).bind fun _ _ _ => ?_
  cases hrate with
  | none => exact .ok ⟨⟨hv, hw⟩, hequal, ⟨rfl, hfinite u hu⟩, rfl, .none⟩
  | some h =>
    have hchecked {d : Decimal} (hd : d.isFinite) : Checking.finite d = .ok d := if_pos hd
    dsimp only
    rw [hchecked h.1, hchecked h.2.1]
    exact .ok ⟨⟨hv, hw⟩, hequal, ⟨rfl, hfinite u hu⟩, rfl, .some h⟩

end Conversion

namespace Service

/-- The same response, but for the way the rate is printed. -/
def SameResponse (resp resp' : Response) : Prop :=
  ∃ v w m rate rate', resp = ⟨200, converted v w m rate⟩ ∧ resp' = ⟨200, converted v w m rate'⟩ ∧
    Option.Rel SameNumber rate rate'

theorem transform_alike {r : Registry} (hr : r.ByIndex) {text text' : String} {v w : Value}
    (hv : scan text = .ok v) (hw : scan text' = .ok w) (hequal : Value.equal false v w = .ok true)
    (env : Environment) (method? : Option JsonText) (target : Date) :
    Except.Alike SameResponse (transform r env ⟨.text text, method?, target⟩)
      (transform r env ⟨.text text', method?, target⟩) := by
  have hvfinite := (legible_of_scan hv).finite
  have hwfinite := (legible_of_scan hw).finite
  cases hm : Transform.methodIn env ⟨.text text, method?, target⟩ with
  | error e =>
    have hm' : Transform.methodIn env ⟨.text text', method?, target⟩ = .error e := hm
    rw [transform, transform, hm, hm']
    exact .error e
  | ok method =>
    have hm' : Transform.methodIn env ⟨.text text', method?, target⟩ = .ok method := hm
    cases method with
    | halved codes half =>
      rw [transform_method_halved hm rfl hv rfl, transform_method_halved hm' rfl hw rfl]
      exact .error _
    | text m =>
      rw [transform_eq hm rfl hv rfl, transform_eq hm' rfl hw rfl]
      have hdetails := Conversion.details_alike hvfinite hwfinite hequal
        (Registry.transform_eq_of_scan hr hv hw hequal m target)
        fun _ => hr.finite.isFinite_of_transform
      refine hdetails.bind fun R R' h => ?_
      rw [← write_congr h.finite.1 h.finite.2 h.source, ← h.result.1, ← h.method]
      refine (Except.Alike.of_eq rfl).with_ok.bind ?_
      rintro source _ ⟨rfl, hsource, -⟩
      refine (Except.Alike.of_eq rfl).with_ok.bind ?_
      rintro result _ ⟨rfl, hresult, -⟩
      obtain ⟨-, rfl⟩ := (write_eq_ok_iff h.finite.1).1 hsource
      obtain ⟨-, rfl⟩ := (write_eq_ok_iff h.result.2).1 hresult
      exact .ok ⟨R.source, R.result, R.method, R.rate, R'.rate, rfl, rfl, h.rate⟩

/-- A request for the conversion of a text. -/
structure Request.Converts (req : Request) (text : String) (method? : Option JsonText)
    (target : Date) : Prop where
  asks : req.Asks .transform
  body : (req.json >>= Transform.ofJson) = .ok ⟨.text text, method?, target⟩

theorem answer_congr {r : Registry} (hr : r.ByIndex) {text text' : String} {v w : Value}
    (hv : scan text = .ok v) (hw : scan text' = .ok w) (hequal : Value.equal false v w = .ok true)
    {req req' : Request} {method? : Option JsonText} {target : Date}
    (hreq : req.Converts text method? target) (hreq' : req'.Converts text' method? target)
    {env : Environment} {body : Json} (h : answer r env req = .ok ⟨200, body⟩) :
    ∃ body', answer r env req' = .ok ⟨200, body'⟩ ∧ SameResponse ⟨200, body⟩ ⟨200, body'⟩ := by
  rw [answer_transform hreq.asks hreq.body] at h
  rw [answer_transform hreq'.asks hreq'.body]
  obtain ⟨resp, hresp, hsame⟩ :=
    (transform_alike hr hv hw hequal env method? target).of_ok (eq_ok_of_reportDomain h)
  obtain ⟨u, w, m, rate, rate', hbody, rfl, hrate⟩ := hsame
  refine ⟨_, ?_, u, w, m, rate, rate', hbody, rfl, hrate⟩
  rw [hresp]
  rfl

/-- Equal money is treated alike, whatever its digits and its provenance. A method by an index makes
equal values of it with the same notation, and of the dates only the years matter for the amount.
Values of the same provenance are equal altogether. So texts that are read as equal values are
converted to the same text, and requests for their conversion have the same answer up to the digits
of the rate. -/
theorem sameMoney_congr :
    (∀ v w : Value, v.SameMoney w →
      (∀ t name target, Except.Alike Value.ShownAlike ((Method.index t name).apply v target)
        ((Method.index t name).apply w target)) ∧
      (v.provenance = w.provenance → Value.equal false v w = .ok true ∧
        (∀ h origin origin', Value.countDistinct h origin origin' v w = .ok 1) ∧
        write v = write w)) ∧
    (∀ v w : Value, v.amount = w.amount → v.date.year = w.date.year → ∀ t name,
      (∀ target target' : Date, target.year = target'.year →
        Except.Alike (fun v' w' => v'.amount = w'.amount) ((Method.index t name).apply v target)
          ((Method.index t name).apply w target')) ∧
      ∀ (target target' : Checking.LooseDate) (v' w' : Value), target.year = target'.year →
        (Method.index t name).apply v target = .ok v' →
        (Method.index t name).apply w target' = .ok w' → v'.amount = w'.amount) ∧
    ∀ r : Registry, r.ByIndex → ∀ text text' v w, scan text = .ok v → scan text' = .ok w →
      Value.equal false v w = .ok true →
      (∀ name target, Conversion.convert r (.string text) name target =
        Conversion.convert r (.string text') name target) ∧
      ∀ req req' method? target, req.Converts text method? target →
        req'.Converts text' method? target → ∀ env body, answer r env req = .ok ⟨200, body⟩ →
        ∃ body', answer r env req' = .ok ⟨200, body'⟩ ∧ SameResponse ⟨200, body⟩ ⟨200, body'⟩ := by
  refine ⟨fun v w h => ⟨h.apply_alike, fun hp => ?provenance⟩,
    fun v w hamount hyear t name => ?years, fun r hr text text' v w hv hw hequal => ?texts⟩
  case provenance =>
    have hequal := h.equal hp
    exact ⟨hequal, fun hashing origin origin' =>
      Value.countDistinct_of_equal hashing origin origin' h.finite h.finite' hequal,
      write_congr h.finite h.finite' hequal⟩
  case years =>
    exact ⟨fun target target' htarget => Method.apply_alike_of_year hamount hyear htarget t name,
      fun target target' v' w' htarget => Method.amount_eq_of_year hamount hyear htarget⟩
  case texts =>
    exact ⟨Conversion.convert_congr hr hv hw hequal,
      fun req req' method? target hreq hreq' env body => answer_congr hr hv hw hequal hreq hreq'⟩

/-- Eight thousand, in three ways. -/
theorem sameMoney_congr_thousands :
    let v : Value := ⟨.finite false 8 3, .usd, .yearly 1970, none⟩
    let w : Value := ⟨.finite false 800000 (-2), .usd, .yearly 1970,
      some ⟨"CPI", .yearly 1950, by decide⟩⟩
    let time := "2024-06-30T12:00:00+00:00"
    let post : Request := ⟨"POST", "/api/v1/transform", [],
      "\x7b\"notation\":\"$8,000@1970\",\"target_year\":2024\x7d", 100, time⟩
    let post' : Request := ⟨"POST", "/api/v1/transform", [],
      "\x7b\"notation\":\"$8000.00@1970\",\"target_year\":2024\x7d", 100, time⟩
    v.SameMoney w ∧
      (∃ v' w', (Method.index Index.cpi).apply v (Date.yearly 2024) = .ok v' ∧
        (Method.index Index.cpi).apply w (Date.yearly 2024) = .ok w' ∧ v'.ShownAlike w') ∧
      Conversion.convert .reference (.string "$8,000@1970") "CPI" (Date.yearly 2024) =
        Conversion.convert .reference (.string "$8000.00@1970") "CPI" (Date.yearly 2024) ∧
      ∃ body body', answer .reference [] post = .ok ⟨200, body⟩ ∧
        answer .reference [] post' = .ok ⟨200, body'⟩ ∧
        SameResponse ⟨200, body⟩ ⟨200, body'⟩ := by
  intro v w time post post'
  have hsame : v.SameMoney w := by
    refine ⟨rfl, rfl, ?_, rfl, rfl⟩
    norm_num [v, w, toRat_nonnegative]
  obtain ⟨v', hv'⟩ : ∃ v', (Method.index Index.cpi).apply v (Date.yearly 2024) = .ok v' :=
    ⟨_, by rfl⟩
  obtain ⟨hvalues, -, htexts⟩ := sameMoney_congr
  obtain ⟨w', hw', hshown⟩ := ((hvalues v w hsame).1 Index.cpi "CPI" (Date.yearly 2024)).of_ok hv'
  obtain ⟨u, u', hu, hu', hequal⟩ : ∃ u u', scan "$8,000@1970" = .ok u ∧
      scan "$8000.00@1970" = .ok u' ∧ Value.equal false u u' = .ok true :=
    ⟨_, _, by rfl, by rfl, by decide +kernel⟩
  obtain ⟨hconvert, hanswer⟩ := htexts .reference Registry.byIndex_reference _ _ u u' hu hu' hequal
  have hpost : post.Converts "$8,000@1970" none (.yearly 2024) :=
    ⟨⟨by decide +kernel, by decide +kernel⟩, Except.toOption_eq_some_iff.1 (by decide +kernel)⟩
  have hpost' : post'.Converts "$8000.00@1970" none (.yearly 2024) :=
    ⟨⟨by decide +kernel, by decide +kernel⟩, Except.toOption_eq_some_iff.1 (by decide +kernel)⟩
  obtain ⟨body, hbody⟩ : ∃ body, answer .reference [] post = .ok ⟨200, body⟩ := by
    rw [answer_of_asks hpost.asks, answerRoute, hpost.body]
    exact ⟨_, by rfl⟩
  obtain ⟨body', hbody', hresponse⟩ := hanswer post post' none (.yearly 2024) hpost hpost' [] body
    hbody
  exact ⟨hsame, ⟨v', w', hv', hw', hshown⟩, hconvert "CPI" (Date.yearly 2024),
    ⟨body, body', hbody, hbody', hresponse⟩⟩

end Service
end DatedMoney
