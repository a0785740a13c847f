import Criteria.Schema.Path

/-!
# References to stored properties

A resolved path becomes a reference. It lists the associations that are joined,
in the order in which they are traversed, and then the path that is navigated
from the innermost of them, or from the root when nothing is joined.
-/

namespace Criteria

/-- A reference to a stored property. -/
structure PropertyRef where
  joins : List String
  path : List String
deriving DecidableEq, Repr

namespace PropertyRef

/-- The reference reached by navigation from the root. -/
def navigate (path : List String) : PropertyRef := ⟨[], path⟩

/-- All segments from the root, joined by points. -/
def dotted (r : PropertyRef) : String := dotJoin (r.joins ++ r.path)

/-- The reference with an angle bracket behind every join. -/
def toText (r : PropertyRef) : String :=
  r.joins.foldr (fun join rest => join ++ ">" ++ rest) (dotJoin r.path)

end PropertyRef

end Criteria
