import DotPath.Problem

set_option autoImplicit false

/-!
Error records made by name from named arguments of any kind, as a program does that raises a
documented error itself. The arguments are checked against what the kind of error takes.
-/

namespace DotPath

structure ErrorRecord where
  kind : ProblemKind
  code : Value
  message : Value
  details : Value
  cause : Option String

/-- Named arguments. -/
abbrev Arguments := List (String × Value)

namespace ProblemKind

/-- The arguments that must be given. -/
def required : ProblemKind → List String
  | general => ["code", "message"]
  | malformedInput => ["reason"]
  | forbiddenKey => ["key"]
  | emptyPath => []
  | invalidSegment => ["segment"]
  | valueNotFound => ["key_name", "path"]
  | indexOutOfBounds => ["index", "length"]
  | indexOnNonContainer => ["key_name", "actual_kind"]
  | configNotFound => ["config_path"]
  | configInvalid => ["message"]
  | contentNotFound => ["content_path"]
  | versionNotFound => ["versions"]

/-- The arguments that may be given. -/
def offered (k : ProblemKind) : List String :=
  k.required ++ if k = valueNotFound then ["reason"] else []

/-- What a kind of error sets itself and so does not take. -/
def fixed : ProblemKind → List String
  | general => []
  | emptyPath => ["code", "message"]
  | configInvalid => ["code"]
  | _ => ["code", "message", "details"]

/-- The facts that can be asked of an error of this kind. -/
def properties : ProblemKind → List String
  | malformedInput => ["reason"]
  | forbiddenKey => ["key"]
  | invalidSegment => ["segment"]
  | valueNotFound => ["key_name", "path"]
  | indexOutOfBounds => ["index", "length"]
  | indexOnNonContainer => ["key_name", "actual_kind"]
  | _ => []

end ProblemKind

namespace ErrorRecord

/-- The names in quotes, joined as in a sentence. -/
def nameList : List String → String
  | [] => ""
  | [a] => s!"'{a}'"
  | [a, b] => s!"'{a}' and '{b}'"
  | names => String.intercalate ", " ((names.dropLast.map fun a => s!"'{a}'") ++
      (names.getLast?.map fun a => s!"and '{a}'").toList)

/-- The arguments of the general error. -/
def generalArguments : List String := ["code", "message", "details", "cause"]

/-- The record under construction, which is an argument that is given already. -/
def itself : String := "self"

/-- An argument that the general error does not take, or that is given already. -/
def generalFault? (name : String) : Option Crash :=
  let refused (what : String) : Option Crash :=
    some (.wrongType s!"PathMapError.__init__() got {what} argument '{name}'")
  if name == itself then refused "multiple values for"
  else if generalArguments.contains name then none
  else refused "an unexpected keyword"

/-- The required arguments that are not given. -/
def missingFault? (k : ProblemKind) (names : List String) : Option Crash :=
  match k.required.filter fun n => !(names.contains n) with
  | [] => none
  | missing =>
    let plural := if missing.length = 1 then "" else "s"
    let count := missing.length
    let list := nameList missing
    some <| .wrongType
      s!"{k.name}.__init__() missing {count} required positional argument{plural}: {list}"

/-- The first fault of the arguments for the kind of error itself. -/
def ownFault? (k : ProblemKind) (names : List String) : Option Crash :=
  if k = .general then (names.findSome? generalFault?).or (missingFault? k names)
  else if names.contains itself then
    some (.wrongType s!"{k.name}.__init__() got multiple values for argument '{itself}'")
  else missingFault? k names

/-- The first fault of the arguments that a kind of error does not take itself. They go to the
general error, together with what the kind of error sets. -/
def passedFault? (k : ProblemKind) (names : List String) : Option Crash :=
  let passed := names.filter fun n => !(k.offered.contains n)
  match passed.find? (k.fixed.contains ·) with
  | some n =>
    some <| .wrongType
      s!"pathmap.errors.PathMapError.__init__() got multiple values for keyword argument '{n}'"
  | none => passed.findSome? generalFault?

/-- The texts that an argument gives one after the other. No argument is a set out of a program, so
that the order of its members does not matter here. -/
def textsOf (v : Value) : Except Crash (List String) :=
  match v with
  | .list items | .tuple items => fromItems 0 items
  | .mapping entries => fromItems 0 (entries.map fun e => .scalar e.1)
  | .set members => fromItems 0 (members.map .scalar)
  | .scalar (.text s) => .ok (s.toList.map fun c => String.ofList [c])
  | .scalar (.bytes bs) => fromItems 0 (bs.map fun b => .int b.toNat)
  | _ => .error (.wrongType "can only join an iterable")
where
  fromItems (i : Nat) : List Value → Except Crash (List String)
    | [] => .ok []
    | v :: vs =>
      match v.plainText? with
      | some s => (s :: ·) <$> fromItems (i + 1) vs
      | none =>
        .error (.wrongType s!"sequence item {i}: expected str instance, {v.fullTypeName} found")

variable [Host]

/-- The message that a kind of error makes of its arguments. -/
def messageOf (k : ProblemKind) (args : Arguments) : Except Crash Value := do
  let value (n : String) : Value := (Table.get? args n).getD .null
  let shown (n : String) : String := (value n).display
  match k with
  | .general | .configInvalid => pure (value "message")
  | .malformedInput => pure (value "reason")
  | .forbiddenKey => pure (.text (Wording.forbiddenKey (shown "key")))
  | .emptyPath => pure (.text Wording.emptyPath)
  | .invalidSegment => pure (.text (Wording.invalidSegment (shown "segment")))
  | .valueNotFound =>
    let reason := ((Table.get? args "reason").map Value.display).getD "no value to traverse"
    pure (.text (Wording.valueNotFound (shown "key_name") (shown "path") reason))
  | .indexOutOfBounds =>
    pure (.text (Wording.indexOutOfBounds (shown "index") (shown "length")))
  | .indexOnNonContainer =>
    pure (.text (Wording.indexOnNonContainer (shown "key_name") (shown "actual_kind")))
  | .configNotFound => pure (.text (Wording.configNotFound (shown "config_path")))
  | .contentNotFound => pure (.text (Wording.contentNotFound (shown "content_path")))
  | .versionNotFound => do
    let versions ← textsOf (value "versions")
    pure (.text (Wording.versionNotFound versions))

/-- The details: what was given as such, if anything, or else the required arguments. -/
def detailsOf (k : ProblemKind) (args : Arguments) : Value :=
  match k with
  | .general | .emptyPath | .configInvalid =>
    match Table.get? args "details" with
    | some v => if v.isNothing then .mapping [] else v
    | none => .mapping []
  | _ => .fields (k.required.map fun n => (n, (Table.get? args n).getD .null))

/-- The error record of a kind with the given arguments. The message is made before arguments are
passed on. -/
def make (k : ProblemKind) (args : Arguments) (cause : Option String) :
    Except Crash ErrorRecord := do
  let names := args.map (·.1)
  if let some c := ownFault? k names then throw c
  let message ← messageOf k args
  if let some c := passedFault? k names then throw c
  let code := if k = .general then (Table.get? args "code").getD .null else .text k.code
  pure { kind := k, code, message, details := detailsOf k args, cause }

/-- The code in brackets before the message. -/
def line (r : ErrorRecord) : String := s!"[{r.code.display}] {r.message.display}"

/-- The code among the listed ones that the record carries. -/
def listedCode (r : ErrorRecord) : Option String :=
  r.code.text?.bind fun c => ProblemKind.codes.find? (· == c)

/-- The facts that can be asked of the record. -/
def facts (r : ErrorRecord) : List (String × Value) :=
  r.kind.properties.map fun n =>
    (n, (r.details.entries?.bind fun es => Table.get? es (.text n)).getD .null)

end ErrorRecord

end DotPath
