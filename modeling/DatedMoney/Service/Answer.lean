import DatedMoney.Conversion
import DatedMoney.Service.Request
import DatedMoney.Settings
import DatedMoney.Value.Members
/-! Answers of the service. -/

namespace DatedMoney.Service

structure Response where
  status : Nat
  body : Json

def version : String := "1.0.0"

def detail (status : Nat) (j : Json) : Response := ⟨status, .object [("detail", j)]⟩

/-! Only the faults of a request are answered with data as it was given, which need not be such that
JSON and its bytes can express it. -/

/-- Whether all numbers in a value are finite. -/
def expressible (j : Json) : Bool :=
  j.everyLeaf fun
    | .float x => x.truncate?.isSome
    | _ => true

/-- Whether all strings in a value are texts. -/
def encodable (j : Json) : Bool :=
  j.everyLeaf fun
    | .halved .. => false
    | _ => true

/-- What a fault in a body is about: the data in its place, or, if that is absent, the body. -/
def subject (body : Json) (f : Fault) : Json :=
  match f.complaint, f.path with
  | .absent, _ => body
  | _, [_, name] => body.field name
  | _, _ => body

/-- A fault with what it is about. The bound that a message names does not stand beside it again. -/
def faultToJson (body : Json) (f : Fault) : Json :=
  match f.toJson with
  | .object members => .object (members ++ [("input", subject body f)])
  | j => j

/-- Requests that do not have what they must. -/
def ofFaults (body : Json) (faults : List Fault) : Except Error Response :=
  let entries := Json.array (faults.map (faultToJson body))
  if !expressible entries then .error .notJson
  else if !encodable entries then .error .unencodable
  else .ok (detail 422 entries)

def ofRefusal : Refusal → Except Error Response
  | .faults body faults => ofFaults body faults
  | .oversized => .ok (detail 400 (.string "There was an error parsing the body"))

def status : DomainError → Nat
  | .notText _ | .invalidNotation .. => 400
  | .unknownMethod _ => 404
  | .missingData .. => 500

def ofDomainError (time : String) (e : DomainError) : Response :=
  detail (status e) (.object [("error", .object [("code", .string ("TIMEBUCKS_" ++ e.kind)),
    ("message", .string e.message), ("details", e.details), ("timestamp", .string time)])])

/-- The response for a domain error; other errors pass. -/
def reportDomain (time : String) : Except Error Response → Except Error Response
  | .error (.domain e) => .ok (ofDomainError time e)
  | r => r

def root : Response :=
  ⟨200, .object [("name", .string "TimeBucks"), ("version", .string version),
    ("docs", .string "/docs"),
    ("api", .object [
      ("parse", .string (Route.path .parse ++ "?notation=\x7bnotation\x7d")),
      ("validate", .string (Route.path .validate ++ "?notation=\x7bnotation\x7d")),
      ("transform", .string (Route.path .transform)),
      ("methods", .string (Route.path .methods)),
      ("health", .string (Route.path .health))])]⟩

def parse (text : String) : Except Error Response := do
  let v ← (Notation.scan text).mapError .domain
  let written ← Notation.write v
  return ⟨200, .object (("notation", .string written) :: v.members ++
    ("is_calculated", .bool v.isCalculated) :: Provenance.members v.provenance)⟩

def validate (text : String) : Response :=
  ⟨200, .object [("notation", .string text), ("valid", .bool (Notation.accepts (.string text)))]⟩

/-- The method that a conversion is asked for, or else the default. -/
def Transform.methodIn (env : Environment) (t : Transform) : Except Error JsonText :=
  match t.method? with
  | some (.halved codes half) => .ok (.halved codes half)
  | some (.text name) => .text <$> Settings.methodOr env (some name)
  | none => .text <$> Settings.methodOr env none

/-- The settings are read before the notation, and only if no method is named. A string that is no
text is neither notation nor the name of a method, and the error that says so repeats it. -/
def transform (r : Registry) (env : Environment) (t : Transform) : Except Error Response := do
  let method ← t.methodIn env
  match t.source with
  | .halved .. => throw .unencodable
  | .text text =>
    let source ← (Notation.scan text).mapError .domain
    match method with
    | .halved .. => throw .unencodable
    | .text name =>
      let report ← Conversion.details r source name t.target
      let source ← Notation.write report.source
      let result ← Notation.write report.result
      return ⟨200, .object [("original", .string source), ("result", .string result),
        ("method", .string report.method), ("amount", report.result.amount.toJson),
        ("rate", Json.ofOption (·.toJson) report.rate)]⟩

def methods (r : Registry) : Response :=
  let entry := fun (name, description) =>
    Json.object [("name", .string name), ("description", .string description)]
  ⟨200, .object [("methods", .array (r.descriptions.map entry))]⟩

def health (r : Registry) : Response :=
  ⟨200, .object [("status", .string "healthy"), ("version", .string version),
    ("methods", .int r.size)]⟩

/-- Answers a request to a route. -/
def answerRoute (r : Registry) (env : Environment) (req : Request) :
    Route → Except Error Response
  | .root => .ok root
  | .parse =>
    match req.parameter "notation" with
    | .ok text => reportDomain req.time (parse text)
    | .error faults => ofFaults .null faults
  | .validate =>
    match req.parameter "notation" with
    | .ok text => .ok (validate text)
    | .error faults => ofFaults .null faults
  | .transform =>
    match req.json >>= Transform.ofJson with
    | .ok t => reportDomain req.time (transform r env t)
    | .error refusal => ofRefusal refusal
  | .methods => .ok (methods r)
  | .health => .ok (health r)

/-- Answers a request. The errors that no route reports are those of the arithmetic, of the
settings, of the values that come out of a method, and of answers that cannot be sent. -/
def answer (r : Registry) (env : Environment) (req : Request) : Except Error Response :=
  match Route.ofPath? req.path with
  | none => .ok (detail 404 (.string "Not Found"))
  | some route =>
    if req.verb.toUpper = route.verb then answerRoute r env req route
    else .ok (detail 405 (.string "Method Not Allowed"))

end DatedMoney.Service
