import DatedMoney.CommandLine.Target
import DatedMoney.Proofs.Conversion.Carried
import DatedMoney.Proofs.Notation.Fields
import DatedMoney.Proofs.Value.Record
import DatedMoney.Service.Request

/-!
# Dates at the gates

A request, a new value and a new provenance take the same data for the same date
(`Transform.ofJson_iff`, `Draft.check_iff`, `LooseProvenance.accepts_iff`), and of integers they
take those that obey the rule for dates (`PlainDate.gives_iff`).
-/

namespace DatedMoney

namespace Checking
open Notation

/-! ## Data that give a date -/

/-- Data that the fields of a date take, and the date that they make up. -/
structure LooseDate.Gives (given : LooseDate) (x : Date) : Prop where
  year : int given.year = .ok x.year
  month : optional (bounded 1 12) given.month = .ok x.month?
  day : optional (bounded 1 31) given.day = .ok x.day?

namespace DateParts
variable {path : List String} {label : String} {year : Except Complaint Int}
  {month day : Json} {parts : DateParts} {x : Date}

theorem check_eq_ok_iff :
    check path label year month day = .ok parts ↔ year = .ok parts.year ∧
      optional (bounded 1 12) month = .ok parts.month? ∧
      optional (bounded 1 31) day = .ok parts.day? := by
  rw [check, Except.map_eq_ok_iff]
  constructor
  · rintro ⟨⟨⟨y, m?⟩, d?⟩, h, rfl⟩
    obtain ⟨h, hday⟩ := Checked.both_eq_ok_iff.1 h
    obtain ⟨hyear, hmonth⟩ := Checked.both_eq_ok_iff.1 h
    exact ⟨Checked.field_eq_ok_iff.1 hyear, Checked.field_eq_ok_iff.1 hmonth,
      Checked.field_eq_ok_iff.1 hday⟩
  · rintro ⟨hyear, hmonth, hday⟩
    refine ⟨((parts.year, parts.month?), parts.day?), ?_, rfl⟩
    rw [hyear, hmonth, hday]
    rfl

theorem date_eq_ok_iff : parts.date path label = .ok x ↔ parts = ⟨x.year, x.month?, x.day?⟩ := by
  obtain ⟨y, m?, d?⟩ := parts
  constructor
  · intro h
    rw [date] at h
    cases m? <;> cases d? <;> cases h <;> rfl
  · intro h
    rw [h, date, Date.ofParts?_parts]

/-- Where the fields stand makes no difference to what they are taken for. -/
theorem check_date_iff {path' : List String} {label' : String} :
    (∃ parts, check path label year month day = .ok parts ∧ parts.date path' label' = .ok x) ↔
      year = .ok x.year ∧ optional (bounded 1 12) month = .ok x.month? ∧
        optional (bounded 1 31) day = .ok x.day? := by
  constructor
  · rintro ⟨parts, hparts, hx⟩
    rw [date_eq_ok_iff.1 hx] at hparts
    exact check_eq_ok_iff.1 hparts
  · intro h
    exact ⟨⟨x.year, x.month?, x.day?⟩, check_eq_ok_iff.2 h, date_eq_ok_iff.2 rfl⟩

end DateParts

theorem LooseDate.parts_date_iff {given : LooseDate} {path : List String} {label label' : String}
    {x : Date} :
    (∃ parts, given.parts label = .ok parts ∧ parts.date path label' = .ok x) ↔ given.Gives x := by
  rw [parts, DateParts.check_date_iff]
  constructor
  · rintro ⟨hyear, hmonth, hday⟩
    exact ⟨hyear, hmonth, hday⟩
  · exact fun h => ⟨h.year, h.month, h.day⟩

/-! ## Integers that give a date -/

theorem bounded_int_iff {low high n : Int} {b : Bounded low high} :
    bounded low high (.int n) = .ok b ↔ n = b.val := by
  constructor
  · intro h
    obtain ⟨k, hk, h⟩ := Except.bind_eq_ok_iff.1 h
    cases hk
    split at h
    · split at h
      · cases h
        rfl
      · cases h
    · cases h
  · rintro rfl
    exact bounded_val b

theorem optional_ofInt?_iff {low high : Int} {n? : Option Int} {b? : Option (Bounded low high)} :
    optional (bounded low high) (Json.ofInt? n?) = .ok b? ↔ n? = b?.map (·.val) := by
  constructor
  · intro h
    cases n? with
    | none =>
      cases h
      rfl
    | some n =>
      obtain ⟨b, hb, h⟩ := Except.bind_eq_ok_iff.1 h
      cases h
      rw [bounded_int_iff.1 hb, Option.map_some]
  · rintro rfl
    exact optional_ofInt? b?

end Checking

namespace Notation.PlainDate
open Checking

theorem gives_iff {d : PlainDate} {x : Date} : d.loose.Gives x ↔ d = .ofDate x := by
  obtain ⟨y, m?, d?⟩ := d
  constructor
  · intro ⟨hyear, hmonth, hday⟩
    rw [ofDate, ← optional_ofInt?_iff.1 hmonth, ← optional_ofInt?_iff.1 hday, ← Except.ok.inj hyear]
  · intro h
    rw [h, loose_ofDate]
    exact ⟨rfl, optional_ofInt? x.month?, optional_ofInt? x.day?⟩

theorem ordered_iff {d : PlainDate} : d.loose.Ordered ↔ ∃ x, d.loose.Gives x := by
  constructor
  · obtain ⟨y, m?, d?⟩ := d
    rintro ⟨-, hmonth, hday⟩
    simp only [gives_iff]
    -- The four ways to give a month and a day: a date of each kind, and the day of no month.
    cases m? with
    | none =>
      cases d? with
      | none => exact ⟨.yearly y, rfl⟩
      | some n =>
        obtain hday | ⟨hday, -⟩ := hday
        · cases hday
        · exact absurd rfl hday
    | some m =>
      obtain hmonth | ⟨m, hm, hlow, hhigh⟩ := hmonth
      · cases hmonth
      cases hm
      cases d? with
      | none => exact ⟨.monthly y ⟨m, hlow, hhigh⟩, rfl⟩
      | some n =>
        obtain hday | ⟨-, n, hn, hlow', hhigh'⟩ := hday
        · cases hday
        cases hn
        exact ⟨.daily y ⟨m, hlow, hhigh⟩ ⟨n, hlow', hhigh'⟩, rfl⟩
  · rintro ⟨x, hx⟩
    rw [gives_iff.1 hx, loose_ofDate]
    exact LooseDate.ordered_ofDate x

end Notation.PlainDate

/-! ## What takes a date -/

namespace Checking

/-- A draft with nothing wrong about it but perhaps the date. -/
structure Draft.SoundButDate (g : Draft) : Prop where
  amount : ∃ a, Checking.amount g.amount = .ok a ∧ a.isFinite
  currency : ∃ c, Checking.currency g.currency = .ok c
  provenance : ∀ p ∈ g.provenance, ∃ q, p.check = .ok q

theorem Draft.check_iff {g : Draft} (h : g.SoundButDate) {x : Date} :
    (∃ v, g.check = .ok v ∧ v.date = x) ↔ g.date.Gives x := by
  obtain ⟨amount, cur, date, p⟩ := g
  obtain ⟨⟨a, ha, hfinite⟩, ⟨c, hc⟩, hp⟩ := h
  obtain ⟨q, hq⟩ : ∃ q, p.mapM (·.check) = .ok q := by
    cases p with
    | none => exact ⟨none, rfl⟩
    | some p =>
      obtain ⟨q, hq⟩ := hp p rfl
      exact ⟨some q, by rw [Option.mapM_some, hq]; rfl⟩
  have hcheck : Draft.check ⟨amount, cur, date, p⟩ = valueOf (.ok a) cur date q := by
    rw [Draft.check, hq, Except.ok_bind, amountField_eq_ok_iff.2 ⟨ha, hfinite⟩, Except.ok_bind]
  rw [hcheck, ← LooseDate.parts_date_iff]
  constructor
  · rintro ⟨v, hv, rfl⟩
    exact (valueOf_eq_ok_iff.1 hv).2.2.1
  · intro hx
    exact ⟨⟨a, c, x, q⟩, valueOf_eq_ok_iff.2 ⟨rfl, hc, hx, rfl⟩, rfl⟩

theorem Draft.accepts_iff {g : Draft} (h : g.SoundButDate) :
    (∃ v, g.check = .ok v) ↔ ∃ x, g.date.Gives x := by
  constructor
  · rintro ⟨v, hv⟩
    exact ⟨v.date, (check_iff h).1 ⟨v, hv, rfl⟩⟩
  · rintro ⟨x, hx⟩
    obtain ⟨v, hv, -⟩ := (check_iff h).2 hx
    exact ⟨v, hv⟩

theorem LooseProvenance.accepts_iff {s : String} (hs : s ≠ "") {date : LooseDate} :
    (∃ p, LooseProvenance.check ⟨.string s, date⟩ = .ok p) ↔ ∃ x, date.Gives x := by
  constructor
  · rintro ⟨p, hp⟩
    exact ⟨p.source, LooseDate.parts_date_iff.1 (LooseProvenance.check_eq_ok_iff.1 hp).2⟩
  · rintro ⟨x, hx⟩
    exact ⟨⟨s, x, hs⟩, LooseProvenance.check_eq_ok_iff.2 ⟨rfl, LooseDate.parts_date_iff.2 hx⟩⟩

end Checking

namespace Service
open Checking

/-- A body that asks for a conversion to a date, with nothing wrong about it but perhaps that. -/
structure AsksFor (body : Json) (date : LooseDate) : Prop where
  source : ∃ s, body.field? "notation" = some (.string s)
  method : body.field "method" = .null ∨ ∃ s, body.field "method" = .string s
  year : body.field? "target_year" = some date.year
  month : body.field "target_month" = date.month
  day : body.field "target_day" = date.day

theorem exists_members {body given : Json} {name : String} (h : body.field? name = some given) :
    ∃ members, body = .object members := by
  cases body with
  | object members => exact ⟨members, rfl⟩
  | _ => cases h

/-- What a request consists of. -/
theorem Transform.ofJson_eq_ok_iff {body : Json} {t : Transform} :
    ofJson body = .ok t ↔ (∃ members, body = .object members) ∧
      required string (body.field? "notation") = .ok t.source ∧
      optional string (body.field "method") = .ok t.method? ∧
      required int (body.field? "target_year") = .ok t.target.year ∧
      optional (bounded 1 12) (body.field "target_month") = .ok t.target.month? ∧
      optional (bounded 1 31) (body.field "target_day") = .ok t.target.day? := by
  rw [ofJson, Except.mapError_eq_ok_iff]
  cases body with
  | object members =>
    rw [check, Except.bind_eq_ok_iff]
    constructor
    · rintro ⟨⟨⟨s, m?⟩, parts⟩, hfields, h⟩
      obtain ⟨hfields, hparts⟩ := Checked.both_eq_ok_iff.1 hfields
      obtain ⟨hs, hm⟩ := Checked.both_eq_ok_iff.1 hfields
      obtain ⟨x, hx, h⟩ := Except.bind_eq_ok_iff.1 h
      cases h
      exact ⟨⟨members, rfl⟩, Checked.field_eq_ok_iff.1 hs, Checked.field_eq_ok_iff.1 hm,
        DateParts.check_date_iff.1 ⟨parts, hparts, hx⟩⟩
    · obtain ⟨s, m?, x⟩ := t
      rintro ⟨-, hs, hm, hdate⟩
      refine ⟨((s, m?), ⟨x.year, x.month?, x.day?⟩), ?_,
        Except.bind_eq_ok_iff.2 ⟨x, DateParts.date_eq_ok_iff.2 rfl, rfl⟩⟩
      refine Checked.both_eq_ok_iff.2 ⟨Checked.both_eq_ok_iff.2 ⟨?_, ?_⟩, ?_⟩
      · exact Checked.field_eq_ok_iff.2 hs
      · exact Checked.field_eq_ok_iff.2 hm
      · exact DateParts.check_eq_ok_iff.2 hdate
  | _ => exact iff_of_false (fun h => by cases h) (fun h => by cases h.1.choose_spec)

theorem Transform.ofJson_iff {body : Json} {date : LooseDate} (h : AsksFor body date) {x : Date} :
    (∃ t, Transform.ofJson body = .ok t ∧ t.target = x) ↔ date.Gives x := by
  obtain ⟨⟨s, hs⟩, hmethod, hyear, hmonth, hday⟩ := h
  obtain ⟨m?, hm⟩ : ∃ m?, optional string (body.field "method") = .ok m? := by
    obtain h | ⟨m, h⟩ := hmethod
    · exact ⟨none, by rw [h]; rfl⟩
    · exact ⟨some (.text m), by rw [h]; rfl⟩
  have hs' : required string (body.field? "notation") = .ok (.text s) := by
    rw [hs]
    rfl
  have hyear' : required int (body.field? "target_year") = int date.year := by
    rw [hyear]
    rfl
  simp only [ofJson_eq_ok_iff, hs', hm, hyear', hmonth, hday]
  constructor
  · rintro ⟨t, ⟨-, -, -, hdate⟩, rfl⟩
    exact ⟨hdate.1, hdate.2.1, hdate.2.2⟩
  · intro hdate
    exact ⟨⟨.text s, m?, x⟩, ⟨exists_members hs, rfl, rfl, hdate.year, hdate.month, hdate.day⟩, rfl⟩

theorem Transform.accepts_iff {body : Json} {date : LooseDate} (h : AsksFor body date) :
    (∃ t, Transform.ofJson body = .ok t) ↔ ∃ x, date.Gives x := by
  constructor
  · rintro ⟨t, ht⟩
    exact ⟨t.target, (ofJson_iff h).1 ⟨t, ht, rfl⟩⟩
  · rintro ⟨x, hx⟩
    obtain ⟨t, ht, -⟩ := (ofJson_iff h).2 hx
    exact ⟨t, ht⟩

end Service

/-! ## Checks that come late -/

/-- The reference methods find no fault with a target that is a date. -/
theorem Registry.transform_ne_invalid {v : Value} {name : String} (hname : name ∈ reference.names)
    (hv : v.amount.isFinite) (target : Date) (subject : Subject) (faults : List Fault) :
    reference.transform v name target ≠ .error (.invalid subject faults) := by
  intro h
  obtain ⟨t, ht, rfl⟩ := mem_names_reference.1 hname
  have houtcome := (transform_outcome hv ht target).2
  rw [h, Method.CarriesTo] at houtcome
  split at houtcome
  · cases houtcome
  split at houtcome
  · cases houtcome
  · obtain ⟨a, ha, -⟩ := houtcome
    cases ha

open Checking Notation Service

/-- What is let in once is not refused later. The fields of a text make up a value. Its amount is a
number, unless the text is longer than any number that can be read, that is, `10 ^ 18` characters.
The reference methods find no fault with a target of a request or of the command line. And a request
takes the same dates for its target as a new value does for its own and a provenance for its source:
those that obey the rule for dates. -/
theorem late_checks_pass :
    (∀ text, (∀ f, readFields text = .ok f → ∃ v, f.value = .ok v) ∧
      (∀ subject faults, readThrough text ≠ .error (.invalid subject faults)) ∧
      (text.length ≤ 10 ^ 18 → readThrough text = (scan text).mapError .domain ∧
        ∀ part position,
          readFields text ≠ .error (.invalidNotation text ⟨.number part, position⟩))) ∧
    (∀ target : Date, ((∃ body t, Transform.ofJson body = .ok t ∧ t.target = target) ∨
        ∃ argument, CommandLine.readTarget argument = .ok target) →
      ∀ text v, scan text = .ok v → ∀ name ∈ Registry.reference.names, ∀ subject faults,
        Registry.reference.transform v name target ≠ .error (.invalid subject faults)) ∧
    (∀ (d : PlainDate) (body : Json) (g : Draft), AsksFor body d.loose → g.date = d.loose →
      g.SoundButDate →
      ((∃ t, Transform.ofJson body = .ok t) ↔ ∃ v, g.check = .ok v) ∧
        ((∃ v, g.check = .ok v) ↔ d.loose.Ordered) ∧
        ∀ s ≠ "", (∃ p, LooseProvenance.check ⟨.string s, d.loose⟩ = .ok p) ↔ d.loose.Ordered) := by
  refine ⟨fun text => ⟨?_, ?_, ?_⟩, ?_, ?_⟩
  · intro f hf
    obtain ⟨v, -, -, hv⟩ := scan_of_readFields hf
    exact ⟨v, hv⟩
  · intro subject faults h
    obtain h | ⟨f, hf, h⟩ := Except.bind_eq_error_iff.1 h
    · obtain ⟨e, -, he⟩ := Except.mapError_eq_error_iff.1 h
      cases he
    · obtain ⟨v, -, -, hv⟩ := scan_of_readFields (Except.mapError_eq_ok_iff.1 hf)
      rw [hv] at h
      cases h
  · intro hlength
    exact ⟨readThrough_eq hlength, readFields_ne_number hlength⟩
  · intro target _ text v hv name hname
    exact Registry.transform_ne_invalid hname (legible_of_scan hv).finite target
  · intro d body g hbody hdate hg
    rw [← hdate] at hbody
    have hrequest := Transform.accepts_iff hbody
    have hvalue := Draft.accepts_iff hg
    rw [hdate, ← PlainDate.ordered_iff] at hrequest hvalue
    refine ⟨hrequest.trans hvalue.symm, hvalue, fun s hs => ?_⟩
    exact (LooseProvenance.accepts_iff hs).trans PlainDate.ordered_iff.symm

/-- A text with all of its parts has a value. The 24th of June is a date for a request and for a new
value, and the value of the text is carried there without a complaint; the 24th of no month is
refused by both. -/
theorem late_checks_pass_midsummer :
    let text := "$1,000@1970-06-24[CPI:1913]"
    let date (m? : Option Int) : PlainDate := ⟨2024, m?, some 24⟩
    let body (m? : Option Int) : Json := .object [("notation", .string text),
      ("target_year", .int 2024), ("target_month", Json.ofInt? m?), ("target_day", .int 24)]
    let g (m? : Option Int) : Draft := ⟨.int 1, .string "USD", (date m?).loose, none⟩
    (∃ f, readFields text = .ok f ∧ ∃ v, f.value = .ok v) ∧
      (∃ v t, scan text = .ok v ∧ Transform.ofJson (body (some 6)) = .ok t ∧
        (∃ w, (g (some 6)).check = .ok w) ∧ ∀ subject faults,
          Registry.reference.transform v "WAGE" t.target ≠ .error (.invalid subject faults)) ∧
      (¬(∃ t, Transform.ofJson (body none) = .ok t) ∧ ¬∃ w, (g none).check = .ok w) := by
  intro text date body g
  obtain ⟨hread, hcarried, hdates⟩ := late_checks_pass
  have hbody (m? : Option Int) : AsksFor (body m?) (date m?).loose :=
    ⟨⟨text, rfl⟩, .inl rfl, rfl, rfl, rfl⟩
  have hamount : (Checking.amount (.int 1)).toOption = some (.finite false 1 0) := by decide +kernel
  have hg (m? : Option Int) : (g m?).SoundButDate :=
    ⟨⟨_, Except.toOption_eq_some_iff.1 hamount, rfl⟩, ⟨.usd, currency_code .usd⟩, nofun⟩
  have hordered : (date (some 6)).loose.Ordered :=
    ⟨⟨2024, rfl⟩, .inr ⟨6, rfl, by decide, by decide⟩, .inr ⟨nofun, 24, rfl, by decide, by decide⟩⟩
  have hdisordered : ¬(date none).loose.Ordered := fun h => by
    obtain hday | ⟨hday, -⟩ := h.day
    · cases hday
    · exact hday rfl
  obtain ⟨hrequest, hvalue, -⟩ := hdates _ _ _ (hbody (some 6)) rfl (hg (some 6))
  obtain ⟨hrequest', hvalue', -⟩ := hdates _ _ _ (hbody none) rfl (hg none)
  have hf : (readFields text).toOption = some ⟨.finite false 1000 0, .usd, ⟨1970, some 6, some 24⟩,
      some "CPI", some ⟨1913, none, none⟩⟩ := by decide +kernel
  have hf := Except.toOption_eq_some_iff.1 hf
  obtain ⟨v, hv, -⟩ := scan_of_readFields hf
  obtain ⟨w, hw⟩ := hvalue.2 hordered
  obtain ⟨t, ht⟩ := hrequest.2 ⟨w, hw⟩
  refine ⟨⟨_, hf, (hread text).1 _ hf⟩, ⟨v, t, hv, ht, ⟨w, hw⟩, ?_⟩, ?_, ?_⟩
  · exact hcarried t.target (.inl ⟨_, t, ht, rfl⟩) text v hv "WAGE" (by decide +kernel)
  · exact fun h => hdisordered (hvalue'.1 (hrequest'.1 h))
  · exact fun h => hdisordered (hvalue'.1 h)

end DatedMoney
