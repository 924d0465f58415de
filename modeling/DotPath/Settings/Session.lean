import DotPath.Settings
import DotPath.Store.Source

set_option autoImplicit false

/-!
Runs of questions to settings, between which the mapping that they were made of may change, and so
may the mappings that they gave back. All these are objects of one memory, each in a place of its
own, and any of them may be put into another: a label in a value that is set is the place of such an
object, which is then held in two places at once. The settings hold what was passed in itself,
unless it counts as nothing given, and they read values in a copy of its entries.
-/

namespace DotPath.Settings

/-- Mappings that were given back are known by their numbers when they are changed, and by their
places when they are held. -/
inductive Step where
  | get (path default : Value)
  | toMapping
  | sourceSet (key value : Value)
  | copySet (key value : Value)
  | givenSet (number : Nat) (key value : Value)

/-- The settings, and what they were made of. -/
structure Session where
  settings : Settings
  source : Source

/-- A memory, and the places in it of what was passed in, of what the settings hold, of the entries
of their store, and of the mappings that they gave back, in order. -/
structure Objects where
  memory : Memory
  source : Nat
  held : Nat
  copy : Nat
  given : List Nat

namespace Objects

/-- The settings, as their places have them now. -/
def settings (o : Objects) : Settings :=
  ⟨(o.memory.read o.held).content, ⟨((o.memory.read o.copy).content.entries?).getD []⟩⟩

/-- A new mapping with the entries that the settings hold. -/
def give (o : Objects) : Except Failure Nat × Objects :=
  match o.settings.toMapping with
  | .error c => (.error (.crash c), o)
  | .ok entries =>
    let (place, memory) := o.memory.add (.value (.mapping entries))
    (.ok place, { o with memory, given := o.given ++ [place] })

/-- Puts a value under a key of the object in a place. -/
def set (o : Objects) (place : Nat) (key value : Value) : Except Failure Value × Objects :=
  match (o.memory.read place).assign key value with
  | .ok object => (.ok .null, { o with memory := o.memory.write place object })
  | .error c => (.error (.crash c), o)

/-- What has come of a step, with the object in a place for an answer. -/
def showing (place : Nat) : Except Failure Value × Objects → Except Failure Value × Objects
  | (.ok _, o) => (.ok (o.memory.read place).content, o)
  | (.error f, o) => (.error f, o)

/-- The answer to a step, and the objects after it. A value that is set in a copy is answered by
the copy; what was not given back is not changed. -/
def answer (o : Objects) : Step → Except Failure Value × Objects
  | .get path default => (o.settings.get path default, o)
  | .toMapping =>
    match o.give with
    | (.error f, o) => (.error f, o)
    | (.ok place, o) => showing place (.ok .null, o)
  | .sourceSet key value => o.set o.source key value
  | .copySet key value =>
    match o.give with
    | (.error f, o) => (.error f, o)
    | (.ok place, o) => showing place (o.set place key value)
  | .givenSet number key value =>
    match o.given[number]? with
    | some place => o.set place key value
    | none => (.ok .null, o)

def answers (o : Objects) : List Step → List (Except Failure Value)
  | [] => []
  | step :: steps =>
    let (result, o) := o.answer step
    result :: o.answers steps

/-- The objects after some steps. -/
def after (o : Objects) (steps : List Step) : Objects :=
  steps.foldl (fun o step => (o.answer step).2) o

end Objects

namespace Session

/-- Something that was given is shared with the settings. -/
def isShared (s : Session) : Bool := !s.source.content.isNothing

def ofSource [Host] (source : Source) : Except Failure Session :=
  (⟨·, source⟩) <$> Settings.ofValue source.content

/-- The objects before the first step. -/
def objects (s : Session) : Objects :=
  let (source, memory) := Memory.empty.add s.source
  let (held, memory) :=
    if s.isShared then (source, memory) else memory.add (.value s.settings.source)
  let (copy, memory) := memory.add (.value (.mapping s.settings.store.entries))
  { memory, source, held, copy, given := [] }

/-- The answers to the steps of a run. -/
def run (s : Session) (steps : List Step) : List (Except Failure Value) := s.objects.answers steps

end Session

end DotPath.Settings
