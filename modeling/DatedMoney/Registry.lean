import DatedMoney.Dictionary
import DatedMoney.Method
/-! Registries: methods by name. -/

namespace DatedMoney

/-- A method as it is registered. -/
structure Registration where
  name : String
  method : Method
  description : String

/-- The methods and their descriptions stand apart, each under the names of the methods. -/
structure Registry where
  methods : List (String × Method)
  texts : List (String × String)

namespace Registry

def empty : Registry := ⟨[], []⟩

/-- The last registration under a name counts. -/
def register (r : Registry) (name : String) (method : Method) (description : String) : Registry :=
  ⟨Dictionary.put name method r.methods, Dictionary.put name description r.texts⟩

/-- What becomes of a registry by one registration after another. -/
def extend (r : Registry) (registrations : List Registration) : Registry :=
  registrations.foldl (fun r e => r.register e.name e.method e.description) r

def size (r : Registry) : Nat := r.methods.length

def names (r : Registry) : List String := r.methods.map (·.1)

def get? (r : Registry) (name : String) : Option Method := r.methods.lookup name

theorem get?_register (r : Registry) (name name' : String) (m : Method) (d : String) :
    (r.register name m d).get? name' = if name' = name then some m else r.get? name' :=
  Dictionary.lookup_put ..

/-- The names with their descriptions, in the order of registration. -/
def descriptions (r : Registry) : List (String × String) :=
  r.names.map fun name => (name, (r.texts.lookup name).getD "")

/-- The registrations of the three reference methods. -/
def references : List Registration :=
  [⟨Index.cpi.name, .index Index.cpi, "Consumer price index (purchasing power)"⟩,
    ⟨Index.wage.name, .index Index.wage, "Average annual wage (labour value)"⟩,
    ⟨Index.gold.name, .index Index.gold, "Gold price per troy ounce (commodity value)"⟩]

/-- A new registry with the three reference methods. -/
def reference : Registry := empty.extend references

/-- Carries a value over by the method of a name. -/
def transform (r : Registry) (source : Value) (name : String) (target : Checking.LooseDate) :
    Except Error Value :=
  match r.get? name with
  | some method => method.apply source target
  | none => .error (.domain (.unknownMethod name))

end Registry
end DatedMoney
