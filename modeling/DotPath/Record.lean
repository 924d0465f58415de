import DotPath.Problem.Record
import DotPath.Text.Utf8

set_option autoImplicit false

/-!
Records made of named values. A schema tells the fields with their types; every value that does
not fit is a fault with its place, and names without a field are passed over. A truth value may be
given as a word or as one or zero, a text as octets in UTF-8, a list as a tuple.
-/

namespace DotPath

open Number Text

inductive FieldType where
  | text
  | optionalText
  | flag
  | texts
  | choice (words : List String)
  deriving DecidableEq, Repr

/-- A field with a default need not be given. -/
structure Field where
  name : String
  type : FieldType
  default : Option Value := none

/-- The fields of a frozen record cannot be set. -/
structure Schema where
  name : String
  fields : List Field
  frozen : Bool := false

inductive FieldProblem where
  | missing
  | noText
  | badText
  | noList
  | noFlag
  | badFlag
  | noChoice
  | frozen
  deriving DecidableEq, Repr

def FieldProblem.name : FieldProblem → String
  | missing => "missing"
  | noText => "string_type"
  | badText => "string_unicode"
  | noList => "list_type"
  | noFlag => "bool_type"
  | badFlag => "bool_parsing"
  | noChoice => "literal_error"
  | frozen => "frozen_instance"

/-- A fault with the names and positions that lead to its place. -/
structure FieldFault where
  problem : FieldProblem
  place : List String
  deriving DecidableEq, Repr

/-- The fields of a record with their values, in order. -/
abbrev Record := List (String × Value)

namespace Record

/-- The text of octets. -/
def octetsText? (octets : List UInt8) : Option String :=
  match Utf8.decode octets with
  | .ok cs => some (String.ofList cs)
  | .error _ => none

def readText : Value → Except FieldProblem String
  | .scalar (.text s) => .ok s
  | .scalar (.ragged _) => .error .badText
  | .scalar (.bytes octets) =>
    match octetsText? octets with
    | some s => .ok s
    | none => .error .badText
  | _ => .error .noText

def trueWords : List String := ["1", "on", "t", "true", "y", "yes"]

def falseWords : List String := ["0", "off", "f", "false", "n", "no"]

/-- A truth value in a word, in any case of ASCII. -/
def flagOfWord (s : String) : Except FieldProblem Bool :=
  let word := String.ofList (s.toList.map Char.toLower)
  if trueWords.contains word then .ok true
  else if falseWords.contains word then .ok false
  else .error .badFlag

def flagOfInt (n : Int) : Except FieldProblem Bool :=
  if n = 1 then .ok true else if n = 0 then .ok false else .error .badFlag

/-- A truth value; a number that no word holds is none at all. -/
def readFlag : Value → Except FieldProblem Bool
  | .scalar (.bool b) => .ok b
  | .scalar (.text s) => flagOfWord s
  | .scalar (.bytes octets) =>
    match octetsText? octets with
    | some s => flagOfWord s
    | none => .error .badFlag
  | .scalar (.int n) => if fitsWord n then flagOfInt n else .error .noFlag
  | .scalar (.float x) =>
    match x.toInt? with
    | some n => if -wordLimit < n && n < wordLimit then flagOfInt n else .error .noFlag
    | none => .error .noFlag
  | _ => .error .noFlag

/-- A value or all that is wrong with it. -/
abbrev Fitted (α : Type) := Except (List FieldFault) α

def atPlace {α : Type} (place : List String) (r : Except FieldProblem α) : Fitted α :=
  r.mapError fun p => [⟨p, place⟩]

/-- Two results, with the faults of both. -/
def both {α β γ : Type} (f : α → β → γ) : Fitted α → Fitted β → Fitted γ
  | .ok a, .ok b => .ok (f a b)
  | .error es, .ok _ | .ok _, .error es => .error es
  | .error ds, .error es => .error (ds ++ es)

/-- The texts of a list, from the given position on. -/
def readTexts (field : String) (i : Nat) : List Value → Fitted (List Value)
  | [] => .ok []
  | v :: vs =>
    let place := [field, String.ofList (digits i)]
    both (· :: ·) (Value.text <$> atPlace place (readText v)) (readTexts field (i + 1) vs)

variable [Host]

/-- The value of a field. -/
def readField (field : String) (type : FieldType) (v : Value) : Fitted Value :=
  match type with
  | .text => Value.text <$> atPlace [field] (readText v)
  | .optionalText =>
    if v.isNull then .ok .null else Value.text <$> atPlace [field] (readText v)
  | .flag => Value.bool <$> atPlace [field] (readFlag v)
  | .texts =>
    match v with
    | .list items | .tuple items => Value.list <$> readTexts field 0 items
    | .set members => Value.list <$> readTexts field 0 ((Host.arranged members).map .scalar)
    | _ => .error [⟨.noList, [field]⟩]
  | .choice words =>
    match v.text? with
    | some s => if words.contains s then .ok v else .error [⟨.noChoice, [field]⟩]
    | none => .error [⟨.noChoice, [field]⟩]

/-- The value of a field among named values. -/
def fieldOf (args : Arguments) (f : Field) : Fitted Value :=
  match Table.get? args f.name, f.default with
  | some v, _ => readField f.name f.type v
  | none, some v => .ok v
  | none, none => .error [⟨.missing, [f.name]⟩]

/-- The record of named values. -/
def ofFields (args : Arguments) : List Field → Fitted Record
  | [] => .ok []
  | f :: fs =>
    both (· :: ·) ((fun v => (f.name, v)) <$> fieldOf args f) (ofFields args fs)

def make (s : Schema) (args : Arguments) : Fitted Record := ofFields args s.fields

/-- Why a name of a record cannot be set: its value does not fit, or any other reason. -/
inductive SetFault where
  | unfit (fault : FieldFault)
  | crash (c : Crash)
  deriving DecidableEq, Repr

/-- What every record tells of itself; none of it can be set. -/
def properties : List String := ["model_extra", "model_fields_set"]

/-- The record with other values for its fields. -/
def ofEntries (s : Schema) (entries : Value.Entries) : Record :=
  entries.filterMap fun e =>
    match e.1 with
    | .text name => if s.fields.any (·.name == name) then some (name, e.2) else none
    | _ => none

/-- Sets a name that begins with an underscore. Two of them are the class of the record and the
table of its fields; the others have no meaning and may be set to no effect. -/
def setHidden (s : Schema) (r : Record) (name : String) (v : Value) : Except Crash Record :=
  match name, v.entries? with
  | "__class__", _ =>
    .error (.wrongType s!"__class__ must be set to a class, not '{v.fullTypeName}' object")
  | "__dict__", some entries => .ok (ofEntries s entries)
  | "__dict__", none =>
    .error (.wrongType s!"__dict__ must be set to a dictionary, not a '{v.fullTypeName}'")
  | _, _ => .ok r

/-- Sets a name to any value; the value of a field is not looked at. -/
def set (s : Schema) (r : Record) (name : String) (v : Value) : Except SetFault Record :=
  if name.startsWith "_" then (setHidden s r name v).mapError .crash
  else if s.frozen then .error (.unfit ⟨.frozen, [name]⟩)
  else if properties.contains name then
    .error (.crash (.noAttribute s!"property '{name}' of '{s.name}' object has no setter"))
  else if s.fields.any (·.name == name) then .ok (Table.put r name v)
  else .error (.crash (.badValue s!"\"{s.name}\" object has no field \"{name}\""))

end Record

end DotPath
