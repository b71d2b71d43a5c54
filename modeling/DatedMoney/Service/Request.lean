import DatedMoney.Checking.LooseDate
import DatedMoney.Json.Parser
/-! Requests to the service, and what they must contain. -/

namespace DatedMoney.Service

structure Request where
  verb : String
  path : String
  query : List (String × String)
  /-- The text of the body, empty if there is none. -/
  body : String
  /-- How deeply the arrays and objects of the body may stand inside each other, which depends on
  what is left of the stack. -/
  depth : Nat
  /-- The time at which an error is reported. -/
  time : String

inductive Route where
  | root | parse | validate | transform | methods | health
deriving DecidableEq, Repr

namespace Route

def all : List Route := [root, parse, validate, transform, methods, health]

def path : Route → String
  | root => "/"
  | parse => "/api/v1/parse"
  | validate => "/api/v1/validate"
  | transform => "/api/v1/transform"
  | methods => "/api/v1/methods"
  | health => "/api/v1/health"

/-- The only verb that a route takes. -/
def verb : Route → String
  | transform => "POST"
  | _ => "GET"

/-- The route of a path. Slashes at its end count for nothing. -/
def ofPath? (path : String) : Option Route :=
  let short := String.ofList (path.toList.reverse.dropWhile (· = '/')).reverse
  all.find? fun r => r.path = path || r.path = short

end Route

open Checking

/-- A parameter of the query, of several with one name the last. -/
def Request.parameter (req : Request) (name : String) : Checked String :=
  match req.query.reverse.lookup name with
  | some s => .ok s
  | none => .error [⟨["query", name], .absent⟩]

/-- Text without the byte order mark that may stand before it. -/
def withoutMark (s : String) : String :=
  match s.toList with
  | '\ufeff' :: cs => .ofList cs
  | _ => s

/-- Why a request is refused before anything is done about it. -/
inductive Refusal where
  /-- There are faults in the body, or around it, which are reported with what they are about. -/
  | faults (body : Json) (faults : List Fault)
  /-- The body goes beyond what is read. -/
  | oversized

/-- The body as JSON. -/
def Request.json (req : Request) : Except Refusal Json :=
  if req.body = "" then .error (.faults .null [⟨["body"], .absent⟩])
  else
    match Json.read req.depth (withoutMark req.body) with
    | .ok j => .ok j
    | .error .malformed => .error (.faults (.object []) [⟨["body"], .unreadableJson⟩])
    | .error .tooManyDigits | .error .tooDeep => .error .oversized

/-- What a conversion is asked for. -/
structure Transform where
  source : JsonText
  method? : Option JsonText
  target : Date
deriving DecidableEq, Repr

/-- Checks the members of a body. -/
def Transform.check (given : Json) : Checked Transform := do
  match given with
  | .object _ =>
    let source := Checked.field ["body", "notation"] (required string (given.field? "notation"))
    let method := Checked.field ["body", "method"] (optional string (given.field "method"))
    let target := DateParts.check ["body"] "target_" (required int (given.field? "target_year"))
      (given.field "target_month") (given.field "target_day")
    let ((source, method?), target) ← (source.both method).both target
    return { source, method?, target := ← target.date ["body"] "target_" }
  | _ => throw [⟨["body"], .notAnObject⟩]

def Transform.ofJson (given : Json) : Except Refusal Transform :=
  (check given).mapError (.faults given)

end DatedMoney.Service
