import DotPath.Path.Segment
import DotPath.Text.Split

set_option autoImplicit false

/-! Paths: segments with dots between them. -/

namespace DotPath.Path

/-- The raw segments of a path. -/
def raws (path : String) : List String := (Text.split '.' path.toList).map String.ofList

/-- The segments of a path; the first that cannot be read is reported. -/
def parse (path : String) : Except Failure (List Segment) :=
  if path.isEmpty then .error Problem.emptyPath.failure else (raws path).mapM Segment.parse

/-- The plainest path with the given segments. -/
def render (segments : List Segment) : String :=
  String.intercalate "." (segments.map Segment.render)

end DotPath.Path
