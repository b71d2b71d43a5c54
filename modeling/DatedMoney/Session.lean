import DatedMoney.Conversion
import DatedMoney.Value.Equality
/-! Sessions: values kept under names, and a registry that carries them over. -/

namespace DatedMoney

/-- A value under its name. Copies that have their amount from one another share an origin. -/
structure Slot where
  name : String
  value : Value
  origin : Nat

/-- The clock counts the operations. A session may work with the default registry itself, or with
one of its own. -/
structure Session where
  registry : Registry
  ownsDefault : Bool
  slots : List Slot
  clock : Nat

inductive SessionError where
  | emptySlot (name : String)
  | error (e : Error)

/-- The operations that make a value. -/
inductive Operation where
  | make (given : Json)
  | withAmount (of : String) (amount : Json)
  | natural (of : String)
  | calculated (of : String)
  | transform (of method : String) (target : Checking.LooseDate) (byDefault : Bool)

/-- What happens in a session: an operation into a slot, or a registration. -/
inductive Event where
  | perform (into : String) (operation : Operation)
  | register (name : String) (method : Method) (description : String)

namespace Session

def start (registry : Registry) (ownsDefault : Bool) : Session := ⟨registry, ownsDefault, [], 0⟩

def slot (s : Session) (name : String) : Except SessionError Slot :=
  match s.slots.find? (·.name = name) with
  | some slot => .ok slot
  | none => .error (.emptySlot name)

/-- The default registry: that of the session, or a fresh one. -/
def defaultRegistry (s : Session) : Registry := if s.ownsDefault then s.registry else .reference

/-- The value that an operation makes, with its origin. A natural value has no calculated form. -/
def result (s : Session) : Operation → Except SessionError (Option (Value × Nat))
  | .make given => do
    let v ← (Checking.ofJson given).mapError .error
    return some (v, s.clock)
  | .withAmount of amount => do
    let slot ← s.slot of
    let amount ← (Checking.amount amount).mapError .error
    return some (slot.value.withAmount amount, s.clock)
  | .natural of => do
    let slot ← s.slot of
    return some (slot.value.natural, slot.origin)
  | .calculated of => do
    let slot ← s.slot of
    return slot.value.calculated?.map (·, slot.origin)
  | .transform of method target byDefault => do
    let slot ← s.slot of
    let registry := if byDefault then s.defaultRegistry else s.registry
    let v ← (registry.transform slot.value method target).mapError .error
    return some (v, s.clock)

/-- Performs an operation into a slot, which is emptied first and stays so if there is no result. -/
def perform (s : Session) (into : String) (operation : Operation) :
    Except SessionError (Option Value) × Session :=
  let slots := s.slots.filter (·.name ≠ into)
  let s := { s with slots, clock := s.clock + 1 }
  match s.result operation with
  | .error e => (.error e, s)
  | .ok none => (.ok none, s)
  | .ok (some (value, origin)) =>
    (.ok (some value), { s with slots := ⟨into, value, origin⟩ :: slots })

def register (s : Session) (name : String) (method : Method) (description : String) : Session :=
  { s with registry := s.registry.register name method description }

def step (s : Session) : Event → Session
  | .perform into operation => (s.perform into operation).2
  | .register name method description => s.register name method description

/-- The session after one event after another. -/
def run (s : Session) (events : List Event) : Session := events.foldl step s

/-- Whether two values are equal, and how many members the set of both has. -/
def compare (h : Hashing) (s : Session) (name name' : String) :
    Except SessionError (Bool × Nat) := do
  let slot ← s.slot name
  let slot' ← s.slot name'
  let equal ← (signaled (slot.value.equal (slot.origin = slot'.origin) slot'.value)).mapError .error
  let count ← (Value.countDistinct h slot.origin slot'.origin slot.value slot'.value).mapError .error
  return (equal, count)

end Session

/-- The notation of a value, whether what is read from it is equal to the value, and the notation
of that. -/
def Value.reread (v : Value) : Except Error (String × Bool × String) := do
  let text ← Notation.write v
  let again ← (Notation.scan text).mapError .domain
  let equal ← signaled (v.equal false again)
  return (text, equal, ← Notation.write again)

end DatedMoney
