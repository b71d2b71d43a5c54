import DatedMoney.Proofs.Conversion.Report
import DatedMoney.Proofs.Service.Request
import DatedMoney.Service.Answer

/-!
# What the service answers

A request for a value or for a conversion is answered with it, or refused with an envelope that
names the error (`answer_outcome`). No route reports an error of the arithmetic: an amount that
cannot be written or is too large ends the request without an answer. So does a string that is no
text, where the envelope would repeat it.
-/

namespace DatedMoney.Service
open Decimal Notation

/-- A request that reaches a route. -/
structure Request.Asks (req : Request) (route : Route) : Prop where
  path : Route.ofPath? req.path = some route
  verb : req.verb.toUpper = route.verb

theorem answer_of_asks {req : Request} {route : Route} (h : req.Asks route) (r : Registry)
    (env : Environment) : answer r env req = answerRoute r env req route := by
  rw [answer, h.path]
  exact if_pos h.verb

theorem answer_transform {req : Request} (h : req.Asks .transform) {t : Transform}
    (ht : (req.json >>= Transform.ofJson) = .ok t) (r : Registry) (env : Environment) :
    answer r env req = reportDomain req.time (transform r env t) := by
  rw [answer_of_asks h, answerRoute, ht]

/-- An answer of a status. -/
def Answers (a : Except Error Response) (status : Nat) : Prop := ∃ body, a = .ok ⟨status, body⟩

/-- The envelope in which an error is reported. -/
def envelope (time code message : String) (details : Json) : Json :=
  .object [("detail", .object [("error", .object [("code", .string code),
    ("message", .string message), ("details", details), ("timestamp", .string time)])])]

/-! ## Texts that are no notation -/

theorem scan_eq_error {text : String} (h : ¬accepts (.string text)) :
    ∃ reason, scan text = .error (.invalidNotation text reason) := by
  have hnone (v : Value) : scan text ≠ .ok v := fun hv => h (accepts_iff.2 ⟨v, hv⟩)
  rw [scan, scanAs] at hnone ⊢
  dsimp only at hnone ⊢
  split
  · rename_i v heq
    rw [heq] at hnone
    exact absurd rfl (hnone v)
  · exact ⟨_, rfl⟩
  · exact ⟨_, rfl⟩

def notationEnvelope (time text : String) (reason : Reason) : Json :=
  envelope time "TIMEBUCKS_INVALID_NOTATION" ("Invalid TimeBucks notation: " ++ text)
    (.object [("reason", .string reason.message)])

/-- A text is refused exactly if it is no notation, and then with an envelope. -/
structure NotationOutcome (time text : String) (a : Except Error Response) : Prop where
  refused : Answers a 400 ↔ ¬accepts (.string text)
  reported : ∀ body, a = .ok ⟨400, body⟩ → ∃ reason, body = notationEnvelope time text reason

namespace NotationOutcome
variable {time text : String} {a : Except Error Response}

theorem of_accepted (h : accepts (.string text)) (hno : ¬Answers a 400) :
    NotationOutcome time text a where
  refused := iff_of_false hno fun h' => h' h
  reported := fun body ha => absurd ⟨body, ha⟩ hno

theorem of_refused (h : ¬accepts (.string text)) {reason : Reason}
    (ha : a = .ok ⟨400, notationEnvelope time text reason⟩) :
    NotationOutcome time text a where
  refused := iff_of_true ⟨_, ha⟩ h
  reported := by
    intro body hbody
    cases ha.symm.trans hbody
    exact ⟨reason, rfl⟩

end NotationOutcome

/-! ## A value -/

/-- What can come of a request for the value of a text. -/
structure ParseOutcome (time text : String) (a : Except Error Response) : Prop
    extends NotationOutcome time text a where
  answered : Answers a 200 ↔ ∃ v, scan text = .ok v ∧ Printable v.amount
  escaped : ∀ e, a = .error e ↔
    e = .signal .invalidOperation ∧ ∃ v, scan text = .ok v ∧ ¬Printable v.amount

/-- The body of the answer for a value, but for its notation. -/
def members (v : Value) : List (String × Json) :=
  v.members ++ ("is_calculated", .bool v.isCalculated) :: Provenance.members v.provenance

theorem parse_eq {text : String} {v : Value} (h : scan text = .ok v) : parse text =
    write v >>= fun written =>
      .ok ⟨200, .object (("notation", .string written) :: members v)⟩ := by
  rw [parse, h]
  rfl

theorem parse_outcome (time text : String) :
    ParseOutcome time text (reportDomain time (parse text)) := by
  by_cases h : accepts (.string text)
  · obtain ⟨v, hv⟩ := accepts_iff.1 h
    have hlegible := legible_of_scan hv
    have hwrite := write_short hlegible.finite hlegible.shortYears
    by_cases hp : Printable v.amount
    · rw [if_pos (hlegible.writable_iff.2 hp)] at hwrite
      obtain ⟨body, ha⟩ : ∃ body, reportDomain time (parse text) = .ok ⟨200, body⟩ := by
        rw [parse_eq hv, hwrite]
        exact ⟨_, rfl⟩
      refine ⟨.of_accepted h ?_, ?_, ?_⟩ <;> simp [ha, Answers, hv, hp]
    · rw [if_neg (mt hlegible.writable_iff.1 hp)] at hwrite
      have ha : reportDomain time (parse text) = .error (.signal .invalidOperation) := by
        rw [parse_eq hv, hwrite]
        rfl
      refine ⟨.of_accepted h ?_, ?_, ?_⟩ <;> simp [ha, Answers, hv, hp, eq_comm]
  · obtain ⟨reason, hreason⟩ := scan_eq_error h
    have ha : reportDomain time (parse text) = .ok ⟨400, notationEnvelope time text reason⟩ := by
      rw [parse, hreason]
      rfl
    refine ⟨.of_refused h ha, ?_, ?_⟩ <;> simp [ha, Answers, hreason]

/-! ## A conversion -/

/-- The method that is named, or else the default. -/
def Transform.methodName (t : Transform) (s : Settings) : JsonText :=
  match t.method? with
  | some (.halved codes half) => .halved codes half
  | some (.text m) => .text (if m = "" then s.defaultMethod else m)
  | none => .text s.defaultMethod

theorem methodIn_eq {env : Environment} {s : Settings} (h : Settings.load env = .ok s)
    (t : Transform) : t.methodIn env = .ok (t.methodName s) := by
  have hdefault : Settings.defaultMethod <$> Settings.load env = .ok s.defaultMethod := by
    rw [h]
    rfl
  rw [Transform.methodIn, Transform.methodName]
  cases t.method? with
  | none =>
    simp only [Settings.methodOr, hdefault]
    rfl
  | some m =>
    cases m with
    | halved codes half => rfl
    | text m =>
      simp only [Settings.methodOr, hdefault]
      split <;> rfl

/-- The body of the answer for a value that is carried over. -/
def converted (v w : Value) (method : String) (rate : Option Decimal) : Json :=
  .object [("original", .string (.ofList (written v))), ("result", .string (.ofList (written w))),
    ("method", .string method), ("amount", w.amount.toJson),
    ("rate", Json.ofOption (·.toJson) rate)]

section
variable {env : Environment} {t : Transform} {method : JsonText} {m text : String}
  (hm : t.methodIn env = .ok method)
include hm

theorem transform_halved {codes : List Nat} {half : codes.any JsonText.isHalf}
    (hsource : t.source = .halved codes half) (r : Registry) :
    transform r env t = .error .unencodable := by
  rw [transform, hm, hsource]
  rfl

variable (hsource : t.source = .text text)
include hsource

theorem transform_eq_error_of_scan {e : DomainError} (h : scan text = .error e)
    (r : Registry) : transform r env t = .error (.domain e) := by
  rw [transform, hm, hsource, Except.ok_bind]
  dsimp only
  rw [h]
  rfl

variable {v : Value} (hv : scan text = .ok v)
include hv

theorem transform_method_halved {codes : List Nat} {half : codes.any JsonText.isHalf}
    (hmethod : method = .halved codes half) (r : Registry) :
    transform r env t = .error .unencodable := by
  rw [transform, hm, hsource, hmethod, Except.ok_bind]
  dsimp only
  rw [hv]
  rfl

variable (hmethod : method = .text m)
include hmethod

/-- An answer is that for a report. -/
theorem transform_eq (r : Registry) : transform r env t =
    Conversion.details r v m t.target >>= fun report =>
      write report.source >>= fun source => write report.result >>= fun result =>
        .ok ⟨200, .object [("original", .string source), ("result", .string result),
          ("method", .string report.method), ("amount", report.result.amount.toJson),
          ("rate", Json.ofOption (·.toJson) report.rate)]⟩ := by
  rw [transform, hm, hsource, hmethod, Except.ok_bind]
  dsimp only
  rw [hv]
  rfl

theorem transform_eq_error {r : Registry} {e : Error} (h : r.transform v m t.target = .error e) :
    transform r env t = .error e := by
  rw [transform_eq hm hsource hv hmethod, Conversion.details, h, Except.error_bind,
    Except.error_bind]

/-- A value that is carried over must be written itself. -/
theorem transform_reference (hyear : Text.isShort t.target.year) {w : Value}
    (hname : m ∈ Registry.reference.names)
    (h : Registry.reference.transform v m t.target = .ok w) :
    ∃ rate, transform .reference env t =
      if Writable v.amount then .ok ⟨200, converted v w m rate⟩
      else .error (.signal .invalidOperation) := by
  have hlegible := legible_of_scan hv
  obtain ⟨rate, hdetails, -⟩ := Conversion.details_reference hname hlegible h
  have hwritten := Registry.write_of_transform hname hlegible.finite hlegible.shortYears.1 h
  have hwrite := write_short hlegible.finite hlegible.shortYears
  rw [if_pos hyear] at hdetails hwritten
  refine ⟨rate, ?_⟩
  rw [transform_eq hm hsource hv hmethod, hdetails]
  split at hwrite
  · rename_i hw
    rw [if_pos hw, if_pos hw, Except.ok_bind, hwrite, hwritten]
    rfl
  · rename_i hw
    rw [if_neg hw, if_neg hw]
    rfl

/-- By a registered method, the amount before it is rounded to cents decides. -/
theorem transform_known (hyear : Text.isShort t.target.year) {tb : Index.Table}
    (htb : tb ∈ [Index.cpi, Index.wage, Index.gold]) (hname : tb.name = m) :
    let x := Method.computed v.amount.toRat (tb.ratio v.date.year t.target.year)
    let tooLarge := (10 : ℚ) ^ (Context.money.emax + 1) ≤ |x|
    let fits := Printable v.amount ∧ (Tie.away.nearest (x * 100)).natAbs < 10 ^ 28
    tooLarge ∧ ¬fits ∧ transform .reference env t = .error (.signal .overflow) ∨
      ¬tooLarge ∧ ¬fits ∧ transform .reference env t = .error (.signal .invalidOperation) ∨
      ¬tooLarge ∧ fits ∧ ∃ body, transform .reference env t = .ok ⟨200, body⟩ := by
  intro x tooLarge fits
  subst hname
  have hlegible := legible_of_scan hv
  have hfails {e : Error} (h : Registry.reference.transform v tb.name t.target = .error e) :=
    transform_eq_error hm hsource hv hmethod h
  obtain ⟨-, houtcome⟩ := Registry.transform_outcome hlegible.finite htb t.target
  rw [Method.CarriesTo] at houtcome
  split at houtcome
  · rename_i hover
    have hfits : ¬fits := fun h => (Method.abs_lt_of_cents h.2).not_ge hover
    exact .inl ⟨hover, hfits, hfails houtcome⟩
  rename_i hover
  split at houtcome
  · rename_i hdigits
    have hfits : ¬fits := fun h => h.2.not_ge hdigits
    exact .inr (.inl ⟨hover, hfits, hfails houtcome⟩)
  · rename_i hdigits
    obtain ⟨a, hw, -⟩ := houtcome
    have hmem := Registry.mem_names_reference.2 ⟨tb, htb, rfl⟩
    obtain ⟨rate, ha⟩ := transform_reference hm hsource hv hmethod hyear hmem hw
    -- The value is written after it is carried over, so its own size matters only in this case.
    by_cases hp : Printable v.amount
    · rw [if_pos (hlegible.writable_iff.2 hp)] at ha
      exact .inr (.inr ⟨hover, ⟨hp, not_le.1 hdigits⟩, _, ha⟩)
    · rw [if_neg (mt hlegible.writable_iff.1 hp)] at ha
      exact .inr (.inl ⟨hover, fun h => hp h.1, ha⟩)

end

def methodEnvelope (time name : String) : Json :=
  envelope time "TIMEBUCKS_UNKNOWN_METHOD" s!"Transformation method '{name}' not found"
    (.object [("method", .string name)])

/-- What can come of a request for the conversion of a text by the method of a name. -/
structure ConversionOutcome (time text : String) (target : Date) (m : String)
    (a : Except Error Response) : Prop extends NotationOutcome time text a where
  unknown : Answers a 404 ↔ accepts (.string text) ∧ m ∉ Registry.reference.names
  unknown_reported : ∀ body, a = .ok ⟨404, body⟩ → body = methodEnvelope time m
  known : accepts (.string text) → m ∈ Registry.reference.names →
    ∃ v, scan text = .ok v ∧ ∃ tb ∈ [Index.cpi, Index.wage, Index.gold], tb.name = m ∧
      let x := Method.computed v.amount.toRat (tb.ratio v.date.year target.year)
      let tooLarge := (10 : ℚ) ^ (Context.money.emax + 1) ≤ |x|
      let fits := Printable v.amount ∧ (Tie.away.nearest (x * 100)).natAbs < 10 ^ 28
      (Answers a 200 ↔ fits) ∧ ∀ e, a = .error e ↔
        tooLarge ∧ e = .signal .overflow ∨ ¬tooLarge ∧ ¬fits ∧ e = .signal .invalidOperation

/-- What can come of a request for a conversion, where the notation and the name of the method need
not be texts. The envelopes that repeat such a string cannot be sent. -/
structure TransformOutcome (time : String) (t : Transform) (method : JsonText)
    (a : Except Error Response) : Prop where
  halved : ∀ codes half, t.source = .halved codes half → a = .error .unencodable
  method_halved : ∀ text codes half, t.source = .text text → method = .halved codes half →
    NotationOutcome time text a ∧ (accepts (.string text) → a = .error .unencodable)
  texts : ∀ text m, t.source = .text text → method = .text m →
    ConversionOutcome time text t.target m a

section
variable {env : Environment} {t : Transform} {method : JsonText} {m text : String}
  (time : String) (hm : t.methodIn env = .ok method) (hsource : t.source = .text text)
include hm hsource

theorem transform_refused (h : ¬accepts (.string text)) : ∃ reason,
    reportDomain time (transform .reference env t) =
      .ok ⟨400, notationEnvelope time text reason⟩ := by
  obtain ⟨reason, hreason⟩ := scan_eq_error h
  refine ⟨reason, ?_⟩
  rw [transform_eq_error_of_scan hm hsource hreason]
  rfl

theorem conversion_outcome (hmethod : method = .text m) (hyear : Text.isShort t.target.year) :
    ConversionOutcome time text t.target m
      (reportDomain time (transform .reference env t)) := by
  by_cases h : accepts (.string text)
  · obtain ⟨v, hv⟩ := accepts_iff.1 h
    by_cases hname : m ∈ Registry.reference.names
    · obtain ⟨tb, htb, htbname⟩ := Registry.mem_names_reference.1 hname
      have hknown := transform_known hm hsource hv hmethod hyear htb htbname
      have hno {status : Nat} (h200 : status ≠ 200) :
          ¬Answers (reportDomain time (transform .reference env t)) status := by
        rintro ⟨body, ha⟩
        obtain ⟨-, -, h⟩ | ⟨-, -, h⟩ | ⟨-, -, _, h⟩ := hknown
        all_goals
          rw [h] at ha
          cases ha
        exact h200 rfl
      refine ⟨.of_accepted h (hno (by decide)), ?_, ?_, fun _ _ => ⟨v, hv, tb, htb, htbname, ?_⟩⟩
      · exact iff_of_false (hno (by decide)) fun h' => h'.2 hname
      · exact fun body ha => absurd ⟨body, ha⟩ (hno (by decide))
      · obtain ⟨hover, hfits, ha⟩ | ⟨hover, hfits, ha⟩ | ⟨hover, hfits, body, ha⟩ := hknown
        · simp only [ha, hover, hfits, Answers]
          simp [reportDomain, eq_comm]
        · simp only [ha, hover, hfits, Answers]
          simp [reportDomain, eq_comm]
        · simp only [ha, hover, hfits, Answers]
          simp [reportDomain]
    · have ha : reportDomain time (transform .reference env t) =
          .ok ⟨404, methodEnvelope time m⟩ := by
        rw [transform_eq_error hm hsource hv hmethod
          (Registry.transform_unknown hname v t.target)]
        rfl
      refine ⟨.of_accepted h (by simp [ha, Answers]), iff_of_true ⟨_, ha⟩ ⟨h, hname⟩, ?_, ?_⟩
      · intro body hbody
        cases ha.symm.trans hbody
        rfl
      · exact fun _ h' => absurd h' hname
  · obtain ⟨reason, ha⟩ := transform_refused time hm hsource h
    refine ⟨.of_refused h ha, ?_, ?_, fun h' => absurd h' h⟩
    · exact iff_of_false (by simp [ha, Answers]) fun h' => h h'.1
    · simp [ha]

end

theorem transform_outcome (time : String) {env : Environment} {t : Transform} {method : JsonText}
    (hm : t.methodIn env = .ok method) (hyear : Text.isShort t.target.year) :
    TransformOutcome time t method (reportDomain time (transform .reference env t)) where
  halved codes half hsource := by
    rw [transform_halved hm hsource]
    rfl
  method_halved text codes half hsource hmethod := by
    by_cases h : accepts (.string text)
    · obtain ⟨v, hv⟩ := accepts_iff.1 h
      have ha : reportDomain time (transform .reference env t) = .error .unencodable := by
        rw [transform_method_halved hm hsource hv hmethod]
        rfl
      exact ⟨.of_accepted h (by simp [ha, Answers]), fun _ => ha⟩
    · obtain ⟨reason, ha⟩ := transform_refused time hm hsource h
      exact ⟨.of_refused h ha, fun h' => absurd h' h⟩
  texts text m hsource hmethod := conversion_outcome time hm hsource hmethod hyear

/-! ## The routes -/

/-- Whatever is asked for, a text that is no notation is refused, and so is a method that is not
registered. All else is answered, but for amounts that cannot be written, and for those that are too
large once they are carried over: there an error of the arithmetic escapes. Where an envelope would
repeat a string that is no text, it cannot be sent. -/
theorem answer_outcome {env : Environment} {s : Settings} (hs : Settings.load env = .ok s)
    (req : Request) :
    (∀ text, req.parameter "notation" = .ok text →
      (req.Asks .parse → ParseOutcome req.time text (answer .reference env req)) ∧
      (req.Asks .validate → answer .reference env req = .ok ⟨200,
        .object [("notation", .string text), ("valid", .bool (accepts (.string text)))]⟩)) ∧
    ∀ t, (req.json >>= Transform.ofJson) = .ok t → req.Asks .transform →
      TransformOutcome req.time t (t.methodName s) (answer .reference env req) := by
  refine ⟨fun text htext => ⟨fun hroute => ?_, fun hroute => ?_⟩, fun t ht hroute => ?_⟩
  · rw [answer_of_asks hroute, answerRoute, htext]
    exact parse_outcome req.time text
  · rw [answer_of_asks hroute, answerRoute, htext]
    rfl
  · rw [answer_of_asks hroute, answerRoute, ht]
    exact transform_outcome req.time (methodIn_eq hs t) (Request.isShort_year ht)

/-- An amount of 27 digits and a cent is accepted, and yet there is no answer; nor is there one for
half of a surrogate pair. -/
theorem answer_outcome_large_cents :
    let text := "$100000000000000000000000000.01@2024"
    let time := "2024-06-30T12:00:00+00:00"
    let ask (path : String) : Request := ⟨"GET", path, [("notation", text)], "", 100, time⟩
    let post (body : String) : Request := ⟨"POST", "/api/v1/transform", [], body, 100, time⟩
    let large := "\x7b\"notation\":\"$100000000000000000000000000.01@2024\",\"target_year\":1913\x7d"
    let half := "\x7b\"notation\":\"\\ud800\",\"target_year\":1913\x7d"
    answer .reference [] (ask "/api/v1/validate") =
        .ok ⟨200, .object [("notation", .string text), ("valid", .bool true)]⟩ ∧
      answer .reference [] (ask "/api/v1/parse") = .error (.signal .invalidOperation) ∧
      answer .reference [] (post large) = .error (.signal .invalidOperation) ∧
      answer .reference [] (post half) = .error .unencodable := by
  obtain ⟨v, hv, hlarge, w, hw⟩ : ∃ v, scan "$100000000000000000000000000.01@2024" = .ok v ∧
      ¬Printable v.amount ∧ ∃ w, Registry.reference.transform v "CPI"
        (Checking.LooseDate.ofDate (.yearly 1913)) = .ok w := by
    refine ⟨⟨.finite false 10000000000000000000000000001 (-2), .usd, .yearly 2024, none⟩,
      by rfl, ?_, _, by rfl⟩
    have hfinite : (Decimal.finite false 10000000000000000000000000001 (-2)).isFinite := rfl
    rw [Printable, ← isWhole_iff hfinite, toRat_nonnegative]
    refine not_or.2 ⟨by decide, ?_⟩
    norm_num
  intro text time ask post large half
  have hs : Settings.load [] = .ok ⟨"127.0.0.1", 8000, "CPI", "INFO"⟩ := by rfl
  have htext (path : String) : (ask path).parameter "notation" = .ok text := by rfl
  have hvalidate : (ask "/api/v1/validate").Asks .validate := ⟨by decide +kernel, by decide +kernel⟩
  have hparse : (ask "/api/v1/parse").Asks .parse := ⟨by decide +kernel, by decide +kernel⟩
  have hpath : Route.ofPath? "/api/v1/transform" = some .transform := by decide +kernel
  have hverb : "POST".toUpper = Route.verb .transform := by decide +kernel
  have htransform (body : String) : (post body).Asks .transform := ⟨hpath, hverb⟩
  have hpost : ((post large).json >>= Transform.ofJson) = .ok ⟨.text text, none, .yearly 1913⟩ :=
    Except.toOption_eq_some_iff.1 (by decide +kernel)
  have hhalf : ((post half).json >>= Transform.ofJson) =
      .ok ⟨.halved [0xd800] (by decide), none, .yearly 1913⟩ :=
    Except.toOption_eq_some_iff.1 (by decide +kernel)
  refine ⟨?_, ?_, ?_, ?_⟩
  · have hvalid := ((answer_outcome hs (ask "/api/v1/validate")).1 text (htext _)).2 hvalidate
    rwa [accepts_iff.2 ⟨v, hv⟩] at hvalid
  · have hparsed := ((answer_outcome hs (ask "/api/v1/parse")).1 text (htext _)).1 hparse
    exact (hparsed.escaped _).2 ⟨rfl, v, hv, hlarge⟩
  · have htransformed :=
      ((answer_outcome hs (post large)).2 _ hpost (htransform large)).texts text "CPI" rfl rfl
    obtain ⟨v', hv', tb, htb, hname, -, hknown⟩ :=
      htransformed.known (accepts_iff.2 ⟨v, hv⟩) (by decide +kernel)
    cases hv.symm.trans hv'
    have houtcome := (Registry.transform_outcome (legible_of_scan hv).finite htb (.yearly 1913)).2
    have hw : Registry.reference.transform v tb.name (Checking.LooseDate.ofDate (.yearly 1913)) =
        .ok w := by
      rw [hname]
      exact hw
    have hsize := Method.abs_lt_of_cents (houtcome.ok_iff.1 ⟨w, hw⟩)
    exact (hknown _).2 (.inr ⟨hsize.not_ge, fun h => hlarge h.1, rfl⟩)
  · exact ((answer_outcome hs (post half)).2 _ hhalf (htransform half)).halved _ _ rfl

end DatedMoney.Service
