import DotPath.Release.Status
import DotPath.Text.Case

set_option autoImplicit false

/-! Reports on a migration and on security: headings between rules, and a line for each entry. -/

namespace DotPath.Release

open Text

/-- A rule as wide as the report. -/
def rule (c : Char) : String := String.ofList (List.replicate 60 c)

def heading (title : String) : List String := [rule '=', title, rule '=']

/-- A section with a title under which a rule is drawn, if it has lines. -/
def sectionOf (title : String) (lines : List String) : List String :=
  if lines.isEmpty then [] else title :: rule '-' :: lines ++ [""]

def lines (ls : List String) : String := String.intercalate "\n" ls

def upperCase (s : String) : String := String.ofList (upper s.toList)

/-- The lines of the report on a migration. -/
def Migration.reportLines (m : Migration) : List String :=
  heading "PATHMAP MIGRATION STATUS REPORT" ++
    ["Current Version: " ++ m.currentVersion, "Target Version:  " ++ m.targetVersion,
      "Compatibility:   " ++ upperCase m.compatibility.name, ""] ++
    (if m.hasBreakingChanges then sectionOf "⚠️  BREAKING CHANGES DETECTED" m.steps else []) ++
    sectionOf "🔒 SECURITY IMPROVEMENTS" (m.securityImprovements.map ("✓ " ++ ·)) ++
    [rule '=']

def Migration.report (m : Migration) : String := lines m.reportLines

/-- The lines of the report on security. -/
def Security.reportLines (s : Security) : List String :=
  heading "PATHMAP SECURITY STATUS REPORT" ++ ["Version: " ++ s.version, ""] ++
    sectionOf "🔒 SECURITY FIXES IN THIS VERSION" (s.securityFixes.map ("✓ " ++ ·)) ++
    (if s.hasIssues then sectionOf "⚠️  SECURITY RECOMMENDATIONS" s.recommendations
      else ["✅ No known security issues in current version", ""]) ++
    [rule '=']

def Security.report (s : Security) : String := lines s.reportLines

/-- The report on the move from a version to another, if the history has both. -/
def migrationReport (h : History) (current target : Value) : Except Failure String :=
  Migration.report <$> checkMigration h current target

/-- The report on the security of a version, if the history has it. -/
def securityReport (h : History) (current : Value) : Except Failure String :=
  Security.report <$> checkSecurity h current

end DotPath.Release
