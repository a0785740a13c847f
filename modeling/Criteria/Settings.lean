/-!
# Settings of a compilation

What a host may tune: the wildcard of search patterns, whether skipped fields
are recorded, and how deep groups may nest.
-/

namespace Criteria

structure Settings where
  wildcard : Char := '%'
  collectDiagnostics : Bool := true
  /-- Number of levels of groups that are followed. -/
  maxGroupDepth : Nat := 32
deriving DecidableEq, Repr

end Criteria
