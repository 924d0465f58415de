import DotPath.Problem.Record
import DotPath.Release

set_option autoImplicit false

/-!
What a history says of a version: what a move to another version asks for, and how the version
stands to the security fixes of the latest one.
-/

namespace DotPath.Release

/-- How a program for one version gets along with another. -/
inductive Compatibility where
  | compatible
  | needsMigration
  | incompatible
  deriving DecidableEq, Repr

def Compatibility.name : Compatibility → String
  | compatible => "compatible"
  | needsMigration => "needs-migration"
  | incompatible => "incompatible"

/-- What a move from one version to another asks for. -/
structure Migration where
  currentVersion : String
  targetVersion : String
  hasBreakingChanges : Bool
  securityImprovements : List String
  steps : List String
  compatibility : Compatibility
  deriving DecidableEq, Repr

/-- How a version stands to the latest release. -/
structure Security where
  version : String
  hasIssues : Bool
  securityFixes : List String
  recommendations : List String
  deriving DecidableEq, Repr

/-- What has to be done for every move that breaks something. -/
def actionItems : List String :=
  ["1. Ensure your code doesn't use dangerous keys (__proto__, constructor, prototype)",
    "2. Add error handling for empty paths",
    "3. Validate path segments before use",
    "4. Check array indices are within bounds before accessing",
    "5. Update tests to expect errors for invalid inputs"]

/-- The release under a version, if the version is there. A version may be any value that can be a
key, but only texts are there. -/
def find? (h : History) (version : Value) : Except Crash (Option (String × Release)) := do
  let _ ← version.asKey
  pure (version.text?.bind fun v => (Table.get? h v).map (v, ·))

/-- None of the versions is known; each should be a text. -/
def notFound (versions : List Value) : Failure :=
  match ErrorRecord.textsOf (.list versions) with
  | .ok vs => (Problem.versionNotFound vs).failure
  | .error c => .crash c

def migrationSteps (target : Release) : List String :=
  if target.breakingChanges.isEmpty then []
  else
    "Review breaking changes before upgrading" :: target.breakingChanges.map ("- " ++ ·) ++
      "" :: "Action items:" :: actionItems

/-- The move to a target version. -/
def migrationTo (current : String) (target : String × Release) : Migration :=
  let breaks := !target.2.breakingChanges.isEmpty
  { currentVersion := current
    targetVersion := target.1
    hasBreakingChanges := breaks
    securityImprovements := target.2.securityFixes
    steps := migrationSteps target.2
    compatibility := if breaks then .needsMigration else .compatible }

/-- What the move from a version to another asks for; both have to be in the history. -/
def checkMigration (h : History) (current target : Value) : Except Failure Migration := do
  let c ← (find? h current).mapError Failure.crash
  let t ← (find? h target).mapError Failure.crash
  match c, t with
  | some c, some t => pure (migrationTo c.1 t)
  | _, _ => throw (notFound [current, target])

/-- The release that is the latest of its history. -/
def latestRelease (h : History) : Except Crash (String × Release) := do
  let version ← latest h
  pure (version, (Table.get? h version).getD { version })

/-- How a version stands to the latest release. -/
def securityOf (version : String × Release) (latest : String × Release) : Security :=
  let hasIssues := version.1 != latest.1 && !latest.2.securityFixes.isEmpty
  { version := version.1
    hasIssues
    securityFixes := version.2.securityFixes
    recommendations :=
      if hasIssues then
        s!"Upgrade to version {latest.1} for security improvements:" ::
          latest.2.securityFixes.map ("  - " ++ ·)
      else [] }

/-- The security of a version; it has to be in the history. -/
def checkSecurity (h : History) (current : Value) : Except Failure Security := do
  match ← (find? h current).mapError Failure.crash with
  | none => throw (notFound [current])
  | some c => do
    let l ← (latestRelease h).mapError Failure.crash
    pure (securityOf c l)

end DotPath.Release
