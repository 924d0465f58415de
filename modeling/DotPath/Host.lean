import DotPath.Scalar

set_option autoImplicit false

/-!
What the program leaves to the machine that it runs on: how deep calls may be nested, and the order
in which the members of a set are told.
-/

namespace DotPath

/-- A machine. Calls are nested up to a limit that all of them share, so that what goes down into a
value or a text may have only so many collections open at once: what is left of the limit by those
who ask, over the calls that each collection takes. Each way down has a limit here; the calls of the
innermost part alone are not counted. -/
class Host where
  /-- Brackets of JSON text. -/
  readingDepth : Nat
  /-- Lists and mappings written as JSON. -/
  writingDepth : Nat
  /-- Lists, tuples and mappings shown as text. -/
  showingDepth : Nat
  /-- Collections in YAML text. -/
  composingDepth : Nat
  /-- Mappings of YAML that are merged into one another. -/
  mergingDepth : Nat
  /-- Mappings of YAML that are the default values of one another. -/
  defaultDepth : Nat
  /-- Mappings and lists in which keys are turned into texts. -/
  keyDepth : Nat
  /-- The members of a set in the order in which the machine keeps them. -/
  arranged : List Scalar → List Scalar
  perm_arranged : ∀ members, (arranged members).Perm members
  /-- No machine is too narrow for ordinary documents. -/
  le_readingDepth : 300 ≤ readingDepth
  le_writingDepth : 300 ≤ writingDepth
  keyDepth_pos : 0 < keyDepth

/-- The machine of a program that is started by itself. Of 1000 calls a few are taken before it asks
for anything; composing and the turning of keys take two for each collection, all else takes one. A
set is told in the order of its document. -/
instance Host.standard : Host where
  readingDepth := 985
  writingDepth := 985
  showingDepth := 985
  composingDepth := 485
  mergingDepth := 985
  defaultDepth := 985
  keyDepth := 490
  arranged := id
  perm_arranged := List.Perm.refl
  le_readingDepth := by decide
  le_writingDepth := by decide
  keyDepth_pos := by decide

end DotPath
