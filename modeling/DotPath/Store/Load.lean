import DotPath.Document
import DotPath.Store

set_option autoImplicit false

/-! Stores of documents in files. -/

namespace DotPath.Store

/-- The store of the document at a path. -/
def load [Host] (files : Files) (path : FilePath) : Action Store := do
  let v ← Document.load files path
  Action.ofResult (build v)

end DotPath.Store
