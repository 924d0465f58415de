import DotPath.Json.Reader
import DotPath.Path.Resolve
import DotPath.Value.Entry
import DotPath.Value.Showing

set_option autoImplicit false

/-!
Stores: the top level of a document, open to paths. A store is built from JSON text, as characters
or octets, or from a mapping; a document with a reserved key at its top is refused.
-/

namespace DotPath

open Text
open Value (Entries)

/-- Keys that may not stand at the top of a document, in the order in which they are looked for. -/
def reservedKeys : List String := ["__proto__", "constructor", "prototype"]

structure Store where
  entries : Entries

namespace Store

variable [Host]

/-- What a text that is no JSON is refused with. -/
def malformed (reason : String) (cause : Option Cause) : Failure :=
  .problem (.malformedInput reason) cause

/-- The failure that stops the reading of a text, faults of the text being told with `intro`. -/
def stopFailure (intro : String) (text : List CodePoint) : Json.Stop → Failure
  | .fault reason rest =>
    malformed (intro ++ Json.faultMessage text reason rest) (some .json)
  | .numeral fault => .crash (.numeral fault)
  | .tooDeep => .crash .tooDeep

def intro : String := "PathMap: Invalid JSON string: "

/-- The value of JSON text. -/
def ofText (text : List CodePoint) : Except Failure Value :=
  (Json.readText text).mapError (stopFailure intro text)

/-- The value of JSON octets in any of the encodings. -/
def ofOctets (octets : List UInt8) : Except Failure Value :=
  match decodeDocument octets with
  | .error fault => .error (malformed (intro ++ fault.message) (some .encoding))
  | .ok text => (Json.read text).mapError (stopFailure intro text)

/-- The value that a source stands for: texts and octets are JSON, other values themselves. -/
def decode : Value → Except Failure Value
  | .scalar (.text s) => ofText (codePoints s.toList)
  | .scalar (.ragged ps) => ofText ps
  | .scalar (.bytes octets) => ofOctets octets
  | v => .ok v

/-- The store of a top level without reserved keys. -/
def ofEntries (entries : Entries) : Except Failure Store :=
  match reservedKeys.find? fun k => Table.contains entries (.text k) with
  | some k => .error (Problem.forbiddenKey k).failure
  | none => .ok ⟨entries⟩

/-- Builds the store of a source. -/
def build (source : Value) : Except Failure Store := do
  let v ← decode source
  match v.entries? with
  | some entries => ofEntries entries
  | none =>
    throw (malformed s!"PathMap: can't iterate over key/value pairs of {v.typeName}" none)

/-- The value stored under a key, or the default. -/
def get (s : Store) (key default : Value) : Except Failure Value := do
  let k ← key.asKey.mapError Failure.crash
  pure ((Table.get? s.entries k).getD default)

def contains (s : Store) (key : Value) : Except Failure Bool := do
  let k ← key.asKey.mapError Failure.crash
  pure (Table.contains s.entries k)

def keys (s : Store) : List Scalar := Table.keys s.entries

def size (s : Store) : Nat := s.entries.length

/-- The store as text: the list of its keys. -/
def display (s : Store) : Except Failure String := do
  let keys ← (Value.list (s.keys.map .scalar)).told.mapError Failure.crash
  pure ("PathMap(keys=" ++ String.ofList keys ++ ")")

/-- Resolves a path in the store. -/
def resolve (s : Store) (path : Value) : Except Failure Value := Path.resolveAny s.entries path

end Store

end DotPath
