import DatedMoney.Registry
/-! Several registries that are in use at a time, and the copies that are taken of their methods. -/

namespace DatedMoney

namespace Registry

/-- What can be asked of a registry. -/
inductive Query where
  | get (name : String)
  | all
  | describe
  | size
  | contains (name : String)
  | transform (source : Value) (name : String) (target : Checking.LooseDate)

inductive Answer where
  | method (m? : Option Method)
  | methods (ms : List (String × Method))
  | descriptions (ds : List (String × String))
  | size (n : Nat)
  | contains (b : Bool)
  | carried (r : Except Error Value)

def answer (r : Registry) : Query → Answer
  | .get name => .method (r.get? name)
  | .all => .methods r.methods
  | .describe => .descriptions r.descriptions
  | .size => .size r.size
  | .contains name => .contains (r.names.contains name)
  | .transform source name target => .carried (r.transform source name target)

end Registry

/-- The registries in the order in which they were made. One of them is the default registry, once
it has been asked for. -/
structure Shelf where
  registries : List Registry
  default? : Option Nat
  copies : List (List (String × Method))

namespace Shelf

/-- What can be done with the registries on a shelf, each of which goes by its place. Every answer
to `all` leaves a copy of the methods behind, and a copy can be changed in any way. -/
inductive Call where
  | create (seeded : Bool)
  | openDefault
  | register (i : Nat) (e : Registration)
  | ask (i : Nat) (q : Registry.Query)
  | edit (k : Nat) (change : List (String × Method) → List (String × Method))

inductive Reply where
  | place (i : Nat)
  | done
  | answer (a : Registry.Answer)
  | missing

def empty : Shelf := ⟨[], none, []⟩

/-- The default registry is made when it is asked for first, with the reference methods. -/
def perform (s : Shelf) : Call → Reply × Shelf
  | .create seeded =>
    let r := if seeded then .reference else .empty
    (.place s.registries.length, { s with registries := s.registries ++ [r] })
  | .openDefault =>
    match s.default? with
    | some i => (.place i, s)
    | none =>
      (.place s.registries.length,
        { s with registries := s.registries ++ [.reference], default? := s.registries.length })
  | .register i e =>
    match s.registries[i]? with
    | some r =>
      (.done, { s with registries := s.registries.set i (r.register e.name e.method e.description) })
    | none => (.missing, s)
  | .ask i q =>
    match s.registries[i]? with
    | some r =>
      (.answer (r.answer q),
        match q with
        | .all => { s with copies := s.copies ++ [r.methods] }
        | _ => s)
    | none => (.missing, s)
  | .edit k change => (.done, { s with copies := s.copies.modify k change })

/-- The shelf after one call after another. -/
def after (s : Shelf) (calls : List Call) : Shelf := calls.foldl (fun s c => (s.perform c).2) s

end Shelf
end DatedMoney
