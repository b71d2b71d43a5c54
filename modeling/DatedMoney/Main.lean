import DatedMoney.CommandLine.Run
/-! The program. -/

namespace DatedMoney.CommandLine

/-- The variables that the settings are read from, as far as they are set. -/
def environment : IO Environment := do
  let names := ["API_HOST", "API_PORT", "DEFAULT_METHOD", "LOG_LEVEL"].map ("TIMEBUCKS_" ++ ·)
  names.filterMapM fun name => do return (← IO.getEnv name).map (name, ·)

end DatedMoney.CommandLine

open DatedMoney in
def main (args : List String) : IO UInt32 := do
  match CommandLine.run (← CommandLine.environment) args with
  | .ok outcome =>
    IO.print outcome.output
    if let some line := outcome.errorLine? then IO.eprintln line
    return outcome.code.toUInt32
  | .error e =>
    IO.eprintln ((e.message?).getD "The amounts or the settings cannot be used.")
    return 1
