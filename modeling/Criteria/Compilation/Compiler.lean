import Criteria.Compilation.Diagnostics
import Criteria.Predicate.Fold
import Criteria.Settings

/-!
# Compilation of fields

A field that holds no nested filter is compiled to one predicate or to none, or it
fails for a reason. What its role makes of the input depends on the schema and the
settings alone (`Compiler.constraint`). The fields of a filter are put together in a
session, and so are nested filters, which a field holds in a group.
-/

namespace Criteria

/-- What compilation depends on beside the filter: the schema with the entity
that paths start from, the settings, and how accents are removed. -/
structure Compiler (ι : Type) where
  schema : Schema ι
  root : ι
  settings : Settings
  unaccent : String → String

namespace Compiler

variable {ι : Type}

/-- The dialect in which literals are prepared. -/
def dialect (T : Compiler ι) : Dialect := ⟨T.unaccent, T.settings.wildcard⟩

/-- The value of an input that has to be one. -/
def expectValue : FieldInput → Except SkipReason Value
  | .value content => .ok content
  | other => .error (.unexpectedInput "value" other.shape)

def parsePath (text : String) : Except SkipReason PropertyPath :=
  (PropertyPath.parse text).mapError .propertyNotFound

/-- The reference at the end of a path navigated from the root. -/
def resolveProperty (T : Compiler ι) (text : String) : Except SkipReason PropertyRef := do
  let path ← parsePath text
  let resolved ← (T.schema.resolve T.root path).mapError .propertyNotFound
  return resolved.reference

/-- The literal lies between two stored properties. -/
def rangePredicate (T : Compiler ι) (bounds : PropertyPair) (input : FieldInput) :
    Except SkipReason Predicate := do
  let value ← expectValue input
  let lower ← T.resolveProperty bounds.lower
  let upper ← T.resolveProperty bounds.upper
  (Predicate.betweenProperties lower upper value).mapError .ofBuildError

/-- The property at the end of a chain of joins compares with the literal. -/
def joinPredicate (T : Compiler ι) (m : FieldMetadata) (input : FieldInput) :
    Except SkipReason Predicate := do
  let value ← expectValue input
  let path ← parsePath m.property
  (T.dialect.joinedLeaf T.schema T.root path value m.operation).mapError .ofBuildError

/-- A stored period meets the requested one when one of its ends lies inside. -/
def periodPredicate (T : Compiler ι) (bounds : PropertyPair) (period : DatePeriod) :
    Except SkipReason Predicate :=
  match period.start, period.stop with
  | some start, some stop =>
      if compare start stop = .gt then .error (.invalidPeriod start stop)
      else do
        let lower ← T.resolveProperty bounds.lower
        let upper ← T.resolveProperty bounds.upper
        return Operator.or.combine
          (.betweenLiterals lower (.date start) (.date stop))
          (.betweenLiterals upper (.date start) (.date stop))
  | _, _ => .error .incompletePeriod

/-- The navigated property compares with the literal. -/
def leafPredicate (T : Compiler ι) (m : FieldMetadata) (input : FieldInput) :
    Except SkipReason Predicate := do
  let value ← expectValue input
  let ref ← T.resolveProperty m.property
  (T.dialect.leaf ref value m.operation).mapError .ofBuildError

/-- The predicate of a field that holds no nested filter. None is deliberate
silence. -/
def constraint (T : Compiler ι) (m : FieldMetadata) (input : FieldInput) :
    Except SkipReason (Option Predicate) :=
  match m.role with
  | .between bounds =>
      if input.isNull then .ok none else (T.rangePredicate bounds input).map some
  | .join => (T.joinPredicate m input).map some
  | .group _ =>
      match input with
      | .group _ => .ok none
      | other => .error (.unexpectedInput "group" other.shape)
  | .period bounds =>
      match input with
      | .period (some period) => (T.periodPredicate bounds period).map some
      | .period none => .ok none
      | other => .error (.unexpectedInput "period" other.shape)
  | .leaf => (T.leafPredicate m input).map some

/-- An input that leaves its field without a constraint: a collection without
members, or a missing one where null is not asked for. -/
def isUnset (m : FieldMetadata) (input : FieldInput) : Bool :=
  input.isEmptyList || (input.isNull && !m.nullable)

end Compiler

end Criteria
