import DotPath.Text.Split
import DotPath.Value.Entry

set_option autoImplicit false

/-!
Releases and their history: a table of releases under their versions. Versions are compared by the
numbers between their points; parts that are no numbers are passed over.
-/

namespace DotPath

open Number Text

structure Release where
  version : String
  breakingChanges : List String := []
  securityFixes : List String := []
  deprecated : List String := []
  deriving DecidableEq, Repr

/-- Releases under their versions. -/
abbrev History := List (String × Release)

namespace Release

/-- The version of this program. -/
def installed : String := "0.0.4"

/-- The history of this program, the latest release first. -/
def history : History :=
  [("0.0.4",
      { version := "0.0.4"
        breakingChanges :=
          ["Dangerous keys (__proto__, constructor, prototype) are now rejected",
            "Empty paths now throw an error instead of returning null",
            "Invalid path segments now throw an error",
            "Array index bounds are now strictly checked"]
        securityFixes :=
          ["Added prototype pollution prevention",
            "Improved JSON parsing with proper error handling",
            "Added array bounds checking to prevent out-of-bounds access",
            "Added input validation for path segments"] }),
    ("0.0.3", { version := "0.0.3" })]

/-- Is a part of a version a number? -/
def isNumberPart (part : List Char) : Bool := !part.isEmpty && part.all isDigitLike

def readPart (part : List Char) : Except Crash Int :=
  (readInteger 10 (codePoints part)).mapError Crash.numeral

/-- The numbers of a version. -/
def numbers (version : String) : Except Crash (List Int) :=
  ((split '.' version.toList).filter isNumberPart).mapM readPart

/-- Does the first list of numbers come before the second? A list comes before every longer one
that begins with it. -/
def comesBefore : List Int → List Int → Bool
  | _, [] => false
  | [], _ :: _ => true
  | m :: ms, n :: ns => m < n || (m == n && comesBefore ms ns)

/-- The last of the versions in order, `best` being the last so far; of equal ones the first. -/
def latestFrom (best : String) (bestNumbers : List Int) : List String → Except Crash String
  | [] => .ok best
  | v :: vs => do
    let ns ← numbers v
    if comesBefore bestNumbers ns then latestFrom v ns vs else latestFrom best bestNumbers vs

/-- The latest version of a history. -/
def latest (h : History) : Except Crash String :=
  match Table.keys h with
  | [] => .error (.badValue "max() arg is an empty sequence")
  | v :: vs => do latestFrom v (← numbers v) vs

end Release

end DotPath
