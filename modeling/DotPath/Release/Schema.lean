import DotPath.Record
import DotPath.Release.Status

set_option autoImplicit false

/-! Releases, migrations and security reports as records. -/

namespace DotPath.Release

def textsField (name : String) : Field := { name, type := .texts, default := some (.list []) }

def schema : Schema :=
  { name := "VersionInfo"
    fields := [{ name := "version", type := .text }, textsField "breaking_changes",
      textsField "security_fixes", textsField "deprecated"]
    frozen := true }

def Migration.schema : Schema :=
  { name := "MigrationInfo"
    fields := [{ name := "current_version", type := .text },
      { name := "target_version", type := .optionalText, default := some .null },
      { name := "has_breaking_changes", type := .flag }, textsField "security_improvements",
      textsField "migration_steps",
      { name := "compatibility_status"
        type := .choice ([.compatible, .needsMigration, .incompatible].map Compatibility.name) }] }

def Security.schema : Schema :=
  { name := "SecurityStatus"
    fields := [{ name := "version", type := .text },
      { name := "has_security_issues", type := .flag },
      textsField "security_fixes", textsField "recommendations"] }

/-- The schemas by name. -/
def schemas : List Schema := [schema, Migration.schema, Security.schema]

def toRecord (r : Release) : Record :=
  [("version", .text r.version), ("breaking_changes", .texts r.breakingChanges),
    ("security_fixes", .texts r.securityFixes), ("deprecated", .texts r.deprecated)]

/-- The texts that a record holds under a name. -/
def textsOf (r : Record) (name : String) : List String :=
  match Table.get? r name with
  | some (.list items) => items.filterMap Value.text?
  | _ => []

def ofRecord (r : Record) : Release :=
  { version := ((Table.get? r "version").bind Value.text?).getD ""
    breakingChanges := textsOf r "breaking_changes"
    securityFixes := textsOf r "security_fixes"
    deprecated := textsOf r "deprecated" }

/-- The release of named values. -/
def ofArguments [Host] (args : Arguments) : Record.Fitted Release :=
  ofRecord <$> Record.make schema args

theorem ofRecord_toRecord (r : Release) : ofRecord r.toRecord = r := by
  have h (ss : List String) : (ss.map Value.text).filterMap Value.text? = ss := by
    simp [List.filterMap_map, Function.comp_def, Value.text, Value.text?]
  cases r
  simp [ofRecord, textsOf, toRecord, Table.get?, Value.texts, Value.text, Value.text?, h]

def Migration.toRecord (m : Migration) : Record :=
  [("current_version", .text m.currentVersion), ("target_version", .text m.targetVersion),
    ("has_breaking_changes", .bool m.hasBreakingChanges),
    ("security_improvements", .texts m.securityImprovements), ("migration_steps", .texts m.steps),
    ("compatibility_status", .text m.compatibility.name)]

def Security.toRecord (s : Security) : Record :=
  [("version", .text s.version), ("has_security_issues", .bool s.hasIssues),
    ("security_fixes", .texts s.securityFixes), ("recommendations", .texts s.recommendations)]

end DotPath.Release
