import DatedMoney.CommandLine.Invocation
import DatedMoney.Conversion
import DatedMoney.Settings
import DatedMoney.Text.Uppercase
/-! What the program prints. -/

namespace DatedMoney.CommandLine

/-- The exit code, the standard output, and the line that says what went wrong. -/
structure Outcome where
  code : Nat
  output : String
  errorLine? : Option String
deriving DecidableEq, Repr

/-- Text with spaces after it, up to a width. -/
def padded (width : Nat) (s : String) : String :=
  s ++ .ofList (.replicate (width - s.length) ' ')

def lines (ls : List String) : String := String.join (ls.map (· ++ "\n"))

/-- A field of a value; what is absent is shown as such. -/
def fieldLine (name : String) (given : Json) : Except Error String :=
  match given.display? with
  | some displayed => .ok s!"  {padded 13 name} {displayed}"
  | none => .error .tooManyDigits

def dateFields (label : String) (date : Date) : List (String × Json) :=
  let given := Checking.LooseDate.ofDate date
  [(label ++ "year", given.year), (label ++ "month", given.month), (label ++ "day", given.day)]

def valueFields (v : Value) : List (String × Json) :=
  ("amount", .string v.amount.toText) :: ("currency", .string v.currency.code) ::
    dateFields "" v.date ++
    match v.provenance with
    | none => []
    | some p => ("method", .string p.method) :: dateFields "source_" p.source

/-- Two columns. -/
def row (name text : String) : String := s!"{padded 8 name} {text}"

def read (text : String) : Except Error Value := (Notation.scan text).mapError .domain

/-- The lines that a command prints. The methods are those of reference. -/
def Command.run (env : Environment) : Command → Except Error (List String)
  | .parse text => do
    let v ← read text
    let written ← Notation.write v
    let kind := if v.isCalculated then "calculated" else "natural"
    return s!"{written}  ({kind})" :: (← (valueFields v).mapM fun (name, j) => fieldLine name j)
  | .convert text target method? => do
    let method ← Settings.methodOr env method?
    return [← Conversion.convert .reference (.string text) method target]
  | .compare text target => do
    let results ← Conversion.compare .reference (← read text) none target
    results.mapM fun (name, v) => return row name (← Notation.write v)
  | .methods => return Registry.reference.descriptions.map fun (name, d) => row name d

def logLevels : List String :=
  ["CRITICAL", "FATAL", "ERROR", "WARN", "WARNING", "INFO", "DEBUG", "NOTSET"]

/-- The level of the log: as given, or, if that is empty, that of the settings. -/
def checkLevel (env : Environment) (given? : Option String) : Except Error Unit := do
  let given ← match given?.getD "" with
    | "" => Settings.logLevel <$> Settings.load env
    | level => pure level
  let level := Text.uppercase given
  if !logLevels.contains level then throw (.unknownLevel level)

/-- Runs the program. Domain errors are reported to the caller; all other errors end the run. -/
def run (env : Environment) (args : List String) : Except Error Outcome :=
  match Invocation.ofArguments args with
  | .error .help => .ok ⟨0, "", none⟩
  | .error (.misuse name misuse) => .ok ⟨2, "", some s!"{name}: error: {misuse.message}"⟩
  | .ok invocation => do
    checkLevel env invocation.logLevel?
    match invocation.command.run env with
    | .ok ls => .ok ⟨0, lines ls, none⟩
    | .error (.domain e) => .ok ⟨1, "", some s!"Error: {e.message}"⟩
    | .error e => .error e

end DatedMoney.CommandLine
