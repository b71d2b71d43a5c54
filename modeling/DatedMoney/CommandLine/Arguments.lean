import DatedMoney.Text.DecimalDigit
import DatedMoney.Text.Quoted
/-! The arguments of a program: flags, of which some take a value, and words. -/

namespace DatedMoney.CommandLine

/-- A flag with its names. One that takes a value says what is wrong with a value, if anything; one
that takes none asks for help. -/
structure Flag where
  names : List String
  complaint? : Option (String → Option String)

/-- The words that a program wants: none, one, or the name of a command and all that follows it. -/
inductive Words where
  | none
  | one (name : String)
  | command (name : String) (choices : List String)

structure Program where
  name : String
  flags : List Flag
  words : Words
  /-- The names of the flags that must be given. -/
  required : List String

/-- What is wrong with the arguments of a program. -/
inductive Misuse where
  | ambiguous (arg : String) (candidates : List String)
  | valueMissing (flag : String)
  | valueIgnored (flag value : String)
  | badValue (flag complaint : String)
  | notAChoice (word given : String) (choices : List String)
  | missing (names : List String)
  | unrecognized (args : List String)

def Misuse.message : Misuse → String
  | .ambiguous arg candidates =>
    s!"ambiguous option: {arg} could match " ++ ", ".intercalate candidates
  | .valueMissing flag => s!"argument {flag}: expected one argument"
  | .valueIgnored flag value =>
    s!"argument {flag}: ignored explicit argument {Text.quote value}"
  | .badValue flag complaint => s!"argument {flag}: {complaint}"
  | .notAChoice word given choices =>
    s!"argument {word}: invalid choice: {Text.quote given} (choose from " ++
      ", ".intercalate (choices.map Text.quote) ++ ")"
  | .missing names => "the following arguments are required: " ++ ", ".intercalate names
  | .unrecognized args => "unrecognized arguments: " ++ " ".intercalate args

/-- Why a program does not run. -/
inductive Stop where
  | help
  | misuse (program : String) (misuse : Misuse)

/-- What an argument may be. A flag is known or not, and may carry a value; if the value is
`joined`, it follows a one-letter name without an equals sign. After the separator there are only
words. -/
inductive Reading where
  | word
  | separator
  | unknown
  | flag (flag : Flag) (value? : Option String) (joined : Bool)

/-- Splits a flag from its value at the first equals sign. -/
def splitValue (arg : String) : String × Option String :=
  let cs := arg.toList
  match cs.dropWhile (· ≠ '=') with
  | _ :: value => (.ofList (cs.takeWhile (· ≠ '=')), some (.ofList value))
  | [] => (arg, none)

/-- A minus and a number, which may have a point before its last digits. -/
def isNegativeNumber (arg : String) : Bool :=
  let isDigit (c : Char) := (Text.digitValue? c).isSome
  let digits (cs : List Char) := cs ≠ [] && cs.all isDigit
  match arg.toList with
  | '-' :: cs =>
    let cs := if cs.getLast? = some '\n' then cs.dropLast else cs
    digits cs || match cs.dropWhile isDigit with
      | '.' :: fraction => digits fraction
      | _ => false
  | _ => false

namespace Program

def names (p : Program) : List String := p.flags.flatMap (·.names)

def flag? (p : Program) (name : String) : Option Flag := p.flags.find? (·.names.contains name)

/-- The flags that an argument may stand for, by name: a long name may be cut short, and a value may
follow a one-letter name at once. -/
def candidates (p : Program) (arg : String) : List (String × Option String × Bool) :=
  if arg.startsWith "--" then
    let (start, value?) := splitValue arg
    (p.names.filter (·.startsWith start)).map fun name => (name, value?, false)
  else
    (p.names.filter (·.toList = arg.toList.take 2)).map fun name =>
      (name, some (.ofList (arg.toList.drop 2)), true)

/-- What one argument is. Numbers and what contains a space are words, unless they name a flag. -/
def reading (p : Program) (arg : String) : Except Misuse Reading :=
  if !arg.startsWith "-" || arg = "-" then .ok .word
  else
    let (start, value?) := splitValue arg
    match p.flag? arg, p.flag? start with
    | some f, _ => .ok (.flag f none false)
    | none, some f => .ok (.flag f value? false)
    | none, none =>
      match p.candidates arg with
      | [] => .ok (if isNegativeNumber arg || arg.toList.contains ' ' then .word else .unknown)
      | [(name, value?, joined)] =>
        .ok (match p.flag? name with
          | some f => .flag f value? joined
          | none => .unknown)
      | several => .error (.ambiguous arg (several.map (·.1)))

/-- All arguments, each with what it is. -/
def readings (p : Program) : List String → Except Misuse (List (String × Reading))
  | [] => .ok []
  | "--" :: args => .ok (("--", .separator) :: args.map (·, .word))
  | arg :: args => do return (arg, ← p.reading arg) :: (← p.readings args)

end Program

/-- What has been found among the arguments: the values of flags by their first names, later ones
first; the words; and what has no place, the last first. -/
structure Found where
  values : List (String × String)
  words : List String
  extras : List String

namespace Program

/-- A flag as it appears in messages. -/
def label (f : Flag) : String := "/".intercalate f.names

def takeValue (p : Program) (f : Flag) (value : String) (found : Found) : Except Stop Found :=
  match f.complaint? with
  | none => .error (.misuse p.name (.valueIgnored (label f) value))
  | some complaint? =>
    match complaint? value with
    | some complaint => .error (.misuse p.name (.badValue (label f) complaint))
    | none => .ok { found with values := (f.names.headD "", value) :: found.values }

/-- Whether a word has a place. -/
def wantsWord (p : Program) (found : Found) : Bool :=
  found.words = [] && !(p.words matches .none)

/-- Words that have a place: one of them, or all the rest for a command. -/
def takeWord (p : Program) (arg : String) (rest : List (String × Reading)) (found : Found) :
    Except Stop (Found × Bool) :=
  match p.words with
  | .command name choices =>
    if choices.contains arg then .ok ({ found with words := arg :: rest.map (·.1) }, true)
    else .error (.misuse p.name (.notAChoice name arg choices))
  | _ => .ok ({ found with words := [arg] }, false)

/-- Goes through the arguments from left to right. A separator before or after the one word of a
program belongs to it; the word of a command has no separator before it. -/
def collect (p : Program) (found : Found) : List (String × Reading) → Except Stop Found
  | [] => .ok found
  | (arg, .unknown) :: rest => p.collect { found with extras := arg :: found.extras } rest
  | (_, .flag f (some value) joined) :: rest => do
    if joined && f.complaint?.isNone then throw .help
    p.collect (← p.takeValue f value found) rest
  | (_, .flag f none _) :: (value, .word) :: rest => do
    if f.complaint?.isNone then throw .help
    p.collect (← p.takeValue f value found) rest
  | (_, .flag f none _) :: _ =>
    if f.complaint?.isNone then .error .help
    else .error (.misuse p.name (.valueMissing (label f)))
  | (sep, .separator) :: (arg, .word) :: rest => do
    if !p.wantsWord found then
      p.collect { found with extras := arg :: sep :: found.extras } rest
    else if p.words matches .command .. then
      return (← p.takeWord sep ((arg, .word) :: rest) found).1
    else p.collect (← p.takeWord arg rest found).1 rest
  | (sep, .separator) :: rest => p.collect { found with extras := sep :: found.extras } rest
  | (arg, .word) :: rest => do
    if !p.wantsWord found then p.collect { found with extras := arg :: found.extras } rest
    else
      let (found, done) ← p.takeWord arg rest found
      if done then return found
      match rest with
      | (_, .separator) :: rest => p.collect found rest
      | rest => p.collect found rest

/-- The names of what must be given and is not: the words first. -/
def missing (p : Program) (found : Found) : List String :=
  let words := match p.words with
    | .none => []
    | .one name | .command name _ => if found.words = [] then [name] else []
  words ++ p.required.filter fun name => !found.values.any (·.1 = name)

/-- What a program finds among its arguments. -/
def run (p : Program) (args : List String) : Except Stop Found := do
  let readings ← (p.readings args).mapError (.misuse p.name)
  let found ← p.collect ⟨[], [], []⟩ readings
  match p.missing found with
  | [] => return found
  | names => throw (.misuse p.name (.missing names))

end Program
end DatedMoney.CommandLine
