import DatedMoney.Checking.Checked
import DatedMoney.Checking.Field
/-! Settings from environment variables. -/

namespace DatedMoney

structure Settings where
  apiHost : String
  apiPort : Int
  defaultMethod : String
  logLevel : String
deriving DecidableEq, Repr

/-- Environment variables, in the order in which they were set. -/
abbrev Environment := List (String × String)

/-- Lower case, as far as it can lead to an ASCII letter: the sign of the kelvin is a `K`. -/
def lowerName (name : String) : String :=
  name.map fun c => if c = '\u212a' then 'k' else c.toLower

/-- The text of a setting. Its variable has the name of the setting after `TIMEBUCKS_`, in upper or
lower case; of several the last counts. -/
def Environment.setting? (env : Environment) (name : String) : Option String :=
  (env.reverse.find? fun (key, _) => lowerName key = "timebucks_" ++ name).map (·.2)

namespace Settings

/-- What is not set has its default. Only `apiPort` can be at fault. -/
def load (env : Environment) : Except Error Settings := do
  let apiPort ← match env.setting? "api_port" with
    | none => pure 8000
    | some s =>
      (Checking.Checked.field ["api_port"] (Checking.int (.string s))).mapError (.invalid .settings)
  return {
    apiHost := (env.setting? "api_host").getD "127.0.0.1"
    apiPort
    defaultMethod := (env.setting? "default_method").getD "CPI"
    logLevel := (env.setting? "log_level").getD "INFO" }

/-- The method to use where none, or an empty one, is named. The settings are read only then. -/
def methodOr (env : Environment) (named : Option String) : Except Error String :=
  match named with
  | some method => if method = "" then defaultMethod <$> load env else .ok method
  | none => defaultMethod <$> load env

end Settings
end DatedMoney
