import DotPath.Store
import DotPath.Store.Source

set_option autoImplicit false

/-!
Runs of questions to a store, between which the mapping that it was built of may change. Both stand
in one memory, each in a place of its own: the store has a copy of the entries, and is read in that
place whenever it is asked.
-/

namespace DotPath.Store

inductive Step where
  | path (path : Value)
  | get (key default : Value)
  | keys
  | iterate
  | contains (key : Value)
  | size
  | display
  | sourceSet (key value : Value)
  | sourceRemove (key : Value)

variable [Host]

/-- The answer of a store to a question; changes of the source are none. -/
def answer (s : Store) : Step → Except Failure Value
  | .path p => s.resolve p
  | .get key default => s.get key default
  | .keys | .iterate => .ok (.list (s.keys.map .scalar))
  | .contains key => .bool <$> s.contains key
  | .size => .ok (.int s.size)
  | .display => .text <$> s.display
  | .sourceSet _ _ | .sourceRemove _ => .ok .null

/-- The change of the source that a step is, if it is no question. -/
def Step.change? : Step → Option (Source → Except Crash Source)
  | .sourceSet key value => some (·.assign key value)
  | .sourceRemove key => some (·.remove key)
  | _ => none

/-- A memory, and the places in it of the source and of the entries of the store. -/
structure Session where
  memory : Memory
  source : Nat
  copy : Nat

namespace Session

/-- The source is there, and the entries of the store are put into a new place. -/
def start (s : Store) (source : Source) : Session :=
  let (place, memory) := Memory.empty.add source
  let (copy, memory) := memory.add (.value (.mapping s.entries))
  ⟨memory, place, copy⟩

/-- The store, as its place has it now. -/
def store (session : Session) : Store :=
  ⟨((session.memory.read session.copy).content.entries?).getD []⟩

/-- The answer to a step, and the session after it. -/
def answer (session : Session) (step : Step) : Except Failure Value × Session :=
  match step.change? with
  | none => (session.store.answer step, session)
  | some change =>
    match change (session.memory.read session.source) with
    | .ok source =>
      (.ok .null, { session with memory := session.memory.write session.source source })
    | .error c => (.error (.crash c), session)

def answers (session : Session) : List Step → List (Except Failure Value)
  | [] => []
  | step :: steps =>
    let (result, session) := session.answer step
    result :: session.answers steps

end Session

/-- The answers to the steps of a run. -/
def run (s : Store) (source : Source) (steps : List Step) : List (Except Failure Value) :=
  (Session.start s source).answers steps

end DotPath.Store
