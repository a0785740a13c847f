import Criteria.Schema.Model
import Criteria.Schema.Reference

/-!
# Path resolution

A path is walked segment by segment from an entity. There are two routes. Along
`Route.navigation` every segment but the last has to lead into another entity;
along `Route.joining` it has to be an association. The first segment that leads
nowhere decides the error, which names it, the entity reached by then and the
whole path.
-/

namespace Criteria

/-- Why a path does not lead to a property. -/
inductive ResolveError where
  | propertyNotFound (entity segment path : String)
  | notNavigable (entity segment path : String)
  | notAnAssociation (entity segment path : String)
  | joinTooShort (path : String)
  | emptySegment (path : String)
deriving DecidableEq, Repr

def ResolveError.message : ResolveError → String
  | propertyNotFound entity segment path =>
      "property '" ++ segment ++ "' not found on '" ++ entity ++ "' (path '" ++ path ++ "')"
  | notNavigable entity segment path =>
      "property '" ++ segment ++ "' on '" ++ entity ++ "' has no nested properties (path '" ++
        path ++ "')"
  | notAnAssociation entity segment path =>
      "property '" ++ segment ++ "' on '" ++ entity ++ "' is not an association (path '" ++
        path ++ "')"
  | joinTooShort path => "join path '" ++ path ++ "' needs at least two segments"
  | emptySegment path => "property path '" ++ path ++ "' contains an empty segment"

/-- Reads a path, refusing empty segments. -/
def PropertyPath.parse (text : String) : Except ResolveError PropertyPath :=
  match PropertyPath.ofText? text with
  | some p => .ok p
  | none => .error (.emptySegment text)

/-- How the segments before the last are passed through. -/
inductive Route where
  | navigation
  | joining
deriving DecidableEq, Repr

namespace Route

/-- The entity that a property of this kind leads into along the route. -/
def enter? {ι : Type} : Route → PropertyKind ι → Option ι
  | navigation, kind => kind.nested?
  | joining, .relation target => some target
  | joining, _ => none

/-- The error of a property that leads nowhere along the route. -/
def refusal : Route → String → String → String → ResolveError
  | navigation => .notNavigable
  | joining => .notAnAssociation

end Route

/-- A property found at the end of a path. -/
structure Resolved (ι : Type) where
  reference : PropertyRef
  kind : PropertyKind ι
  /-- Name of the entity that declares the property. -/
  owner : String

namespace Schema

variable {ι : Type}

/-- The property of an entity, as part of a walk along `path`. -/
def lookUp (S : Schema ι) (path : String) (i : ι) (segment : String) :
    Except ResolveError (Property ι) :=
  match (S.entity i).property? segment with
  | some property => .ok property
  | none => .error (.propertyNotFound (S.nameOf i) segment path)

/-- The entity reached by passing through the given segments. -/
def passThrough (S : Schema ι) (route : Route) (path : String) (i : ι) :
    List String → Except ResolveError ι
  | [] => .ok i
  | segment :: rest => do
      let property ← S.lookUp path i segment
      match route.enter? property.kind with
      | some j => S.passThrough route path j rest
      | none => .error (route.refusal (S.nameOf i) segment path)

@[simp] theorem passThrough_nil (S : Schema ι) (route : Route) (path : String) (i : ι) :
    S.passThrough route path i [] = .ok i := rfl

theorem passThrough_append (S : Schema ι) (route : Route) (path : String) (i : ι)
    (ss ts : List String) :
    S.passThrough route path i (ss ++ ts) =
      (S.passThrough route path i ss).bind fun j => S.passThrough route path j ts := by
  induction ss generalizing i with
  | nil => rfl
  | cons s ss ih =>
      rw [List.cons_append, passThrough, passThrough]
      cases h : S.lookUp path i s with
      | error e => rfl
      | ok property =>
          cases he : route.enter? property.kind with
          | none => simp [he, bind, Except.bind]
          | some j => simp [he, ih, bind, Except.bind]

/-- The property at the end of a path, with the entity that declares it. -/
def walk (S : Schema ι) (route : Route) (start : ι) (p : PropertyPath) :
    Except ResolveError (Property ι × ι) := do
  let owner ← S.passThrough route p.toText start p.parents
  let property ← S.lookUp p.toText owner p.leaf
  return (property, owner)

def resolve (S : Schema ι) (start : ι) (p : PropertyPath) :
    Except ResolveError (Resolved ι) := do
  let (property, owner) ← S.walk .navigation start p
  return ⟨.navigate p.segments, property.kind, S.nameOf owner⟩

/-- Resolves a path as a chain of joins, the last segment being read inside the
innermost of them. -/
def resolveJoin (S : Schema ι) (start : ι) (p : PropertyPath) :
    Except ResolveError (Resolved ι) := do
  if p.parents.isEmpty then
    .error (.joinTooShort p.toText)
  else
    let (property, owner) ← S.walk .joining start p
    return ⟨⟨p.parents, [p.leaf]⟩, property.kind, S.nameOf owner⟩

end Schema

end Criteria
