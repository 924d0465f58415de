import DotPath.CommandLine

set_option autoImplicit false

/-! The program in its surroundings: it reads the files that a run looks at, and prints. -/

namespace DotPath.CommandLine

/-- What stands at a path now. -/
def look (path : FilePath) : IO FileStatus := do
  match ← (IO.FS.readBinFile path.text).toBaseIO with
  | .ok octets => pure (.file octets.toList)
  | .error _ => pure .absent

/-- What stands at the paths now; anything else is as if absent. -/
def lookAt (paths : List FilePath) : IO Files := do
  let seen ← paths.mapM fun path => do pure (path, ← look path)
  pure fun path => (seen.lookup path).getD .absent

/-- The files of a run. Only the settings tell where the document is. -/
def filesFor (args : List String) : IO Files := do
  let settings ← lookAt (consulted (fun _ => .absent) args)
  lookAt (consulted settings args)

def report (o : Outcome) : IO UInt32 := do
  for e in o.log do
    IO.eprintln s!"{e.level.name} {e.origin}: {e.message}"
  IO.print o.stdout
  IO.eprint o.stderr
  match o.ending with
  | .crashed c =>
    IO.eprintln s!"{c.name}: {c.message}"
    pure 1
  | e => pure (UInt32.ofNat (e.status?.getD 1))

end DotPath.CommandLine

def main (args : List String) : IO UInt32 := do
  let files ← DotPath.CommandLine.filesFor args
  DotPath.CommandLine.report (DotPath.CommandLine.run files args)
