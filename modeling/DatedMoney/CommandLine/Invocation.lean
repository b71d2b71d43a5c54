import DatedMoney.CommandLine.Arguments
import DatedMoney.CommandLine.Target
/-! What the arguments of the program ask for. -/

namespace DatedMoney.CommandLine

/-- A command. An absent method is the one of the settings. -/
inductive Command where
  | parse (text : String)
  | convert (text : String) (target : Date) (method? : Option String)
  | compare (text : String) (target : Date)
  | methods
deriving DecidableEq, Repr

structure Invocation where
  logLevel? : Option String
  command : Command
deriving DecidableEq, Repr

def helpFlag : Flag := ⟨["-h", "--help"], none⟩

/-- A flag whose value may be any text. -/
def textFlag (name : String) : Flag := ⟨[name], some fun _ => none⟩

def targetFlag : Flag :=
  ⟨["--to"], some fun value =>
    match readTarget value with
    | .ok _ => none
    | .error (.notANumber _) => some s!"invalid _parse_target value: {Text.quote value}"
    | .error e => some (e.message value)⟩

def commands : List String := ["parse", "convert", "compare", "methods"]

def program : Program where
  name := "timebucks_calc.py"
  flags := [helpFlag, textFlag "--log-level"]
  words := .command "command" commands
  required := []

/-- The program of a command. -/
def commandProgram (command : String) : Program :=
  let name := program.name ++ " " ++ command
  match command with
  | "parse" => ⟨name, [helpFlag], .one "notation", []⟩
  | "convert" => ⟨name, [helpFlag, targetFlag, textFlag "--method"], .one "notation", ["--to"]⟩
  | "compare" => ⟨name, [helpFlag, targetFlag], .one "notation", ["--to"]⟩
  | _ => ⟨name, [helpFlag], .none, []⟩

/-- The command of a name with what has been found among its arguments. -/
def Command.ofFound? (name : String) (found : Found) : Option Command := do
  let text := found.words.headD ""
  let target? := (found.values.lookup "--to").bind fun value => (readTarget value).toOption
  match name with
  | "parse" => some (.parse text)
  | "convert" => return .convert text (← target?) (found.values.lookup "--method")
  | "compare" => return .compare text (← target?)
  | "methods" => some .methods
  | _ => none

/-- Reads the arguments. What neither the program nor its command has a place for is reported when
all else is in order. -/
def Invocation.ofArguments (args : List String) : Except Stop Invocation := do
  let outer ← program.run args
  let name := outer.words.headD ""
  let inner ← (commandProgram name).run outer.words.tail
  match outer.extras.reverse ++ inner.extras.reverse with
  | [] => pure ()
  | extras => throw (.misuse program.name (.unrecognized extras))
  match Command.ofFound? name inner with
  | some command => return ⟨outer.values.lookup "--log-level", command⟩
  | none => throw (.misuse program.name (.missing ["command"]))

end DatedMoney.CommandLine
