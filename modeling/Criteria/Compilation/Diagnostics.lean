import Criteria.Filter.Basic
import Criteria.Predicate.Construction

/-!
# Diagnostics

A field that cannot be compiled is left out, and the reason is recorded under
its name. Reasons recorded for the fields of a nested filter are taken over
under the name of the group field, a point and their own name. The records keep
the order in which the fields were met.
-/

namespace Criteria

/-- Why a field contributes nothing. -/
inductive SkipReason where
  | propertyNotFound (cause : ResolveError)
  | unsupportedKind (kind : ValueKind) (context : String)
  | invalidPeriod (start stop : Date)
  | incompletePeriod
  | accessorFailure (cause : AccessError)
  | unexpectedInput (expected found : String)
  | groupTooDeep (limit : Nat)
deriving DecidableEq

namespace SkipReason

def message : SkipReason → String
  | propertyNotFound cause => "property path did not resolve: " ++ cause.message
  | unsupportedKind kind context => kind.unsupportedMessage context
  | invalidPeriod start stop =>
      "period start " ++ start.toText ++ " is after end " ++ stop.toText
  | incompletePeriod => "period is missing a start or end bound"
  | accessorFailure cause => cause.message
  | unexpectedInput expected found =>
      "expected a " ++ expected ++ " input, found a " ++ found ++ " input"
  | groupTooDeep limit => "group nesting exceeds " ++ toString limit ++ " levels"

/-- A leaf that cannot be built is skipped for the same cause. -/
def ofBuildError : BuildError → SkipReason
  | .unsupportedKind kind context => unsupportedKind kind context
  | .resolve cause => propertyNotFound cause

end SkipReason

/-- One skipped field. -/
structure FieldSkip where
  field : String
  reason : SkipReason
deriving DecidableEq

/-- The same record, taken over from the group field `parent`. -/
def FieldSkip.under (parent : String) (s : FieldSkip) : FieldSkip :=
  { s with field := parent ++ "." ++ s.field }

/-- Skipped fields of a filter, in the order in which they were met. -/
abbrev Diagnostics := List FieldSkip

namespace Diagnostics

def record (d : Diagnostics) (field : String) (reason : SkipReason) : Diagnostics :=
  d ++ [⟨field, reason⟩]

/-- Takes over the records of the nested filter in the field `parent`. -/
def absorb (d : Diagnostics) (parent : String) (nested : Diagnostics) : Diagnostics :=
  d ++ nested.map (·.under parent)

/-- The first reason recorded for a field. -/
def reasonFor? (d : Diagnostics) (field : String) : Option SkipReason :=
  (d.find? (·.field == field)).map (·.reason)

end Diagnostics

end Criteria
