import Criteria.Text.Quoted

/-!
# Entity schemas

An entity has a name and an ordered list of properties, each of a declared kind.
A property may hold a record of another entity, stored inline (embedded) or
associated (a relation), and such references may run in circles. A schema is
therefore a map from indices to entities in which nested entities appear by
index; a circle of entities is a circle of indices, and every walk along a path
is a walk along finitely many of them.
-/

namespace Criteria

/-- Declared kind of a property, nested entities given by indices in `ι`. -/
inductive PropertyKind (ι : Type) where
  | text
  | int
  | uint
  | float
  | bool
  | date
  | timestamp
  | enum
  | list (element : PropertyKind ι)
  /-- A record stored inline with its owner. -/
  | embedded (target : ι)
  /-- An association with another entity. -/
  | relation (target : ι)
deriving DecidableEq

namespace PropertyKind

/-- The entity reachable through a property of this kind. -/
def nested? {ι : Type} : PropertyKind ι → Option ι
  | embedded target | relation target => some target
  | _ => none

def isAssociation {ι : Type} : PropertyKind ι → Bool
  | relation _ => true
  | _ => false

end PropertyKind

structure Property (ι : Type) where
  name : String
  kind : PropertyKind ι

/-- An entity with its properties in declaration order. -/
structure Entity (ι : Type) where
  name : String
  properties : List (Property ι)

/-- The property of the given name. Of several, the first one counts. -/
def Entity.property? {ι : Type} (e : Entity ι) (name : String) : Option (Property ι) :=
  e.properties.find? (·.name == name)

/-- A schema: the entities, by index. -/
structure Schema (ι : Type) where
  entity : ι → Entity ι

namespace Schema

variable {ι : Type}

def nameOf (S : Schema ι) (i : ι) : String := (S.entity i).name

/-- Kinds are the same when they are built alike and name the same entities.
Nested entities are not looked into. -/
def sameKind (S : Schema ι) : PropertyKind ι → PropertyKind ι → Bool
  | .list a, .list b => S.sameKind a b
  | .embedded i, .embedded j | .relation i, .relation j => S.nameOf i == S.nameOf j
  | a, b => a.ctorIdx == b.ctorIdx

/-- Description of a kind, nested entities by their quoted names. -/
def describeKind (S : Schema ι) : PropertyKind ι → String
  | .text => "Text"
  | .int => "Int"
  | .uint => "Uint"
  | .float => "Float"
  | .bool => "Bool"
  | .date => "Date"
  | .timestamp => "Timestamp"
  | .enum => "Enum"
  | .list element => "List(" ++ S.describeKind element ++ ")"
  | .embedded i => "Embedded(" ++ Text.quoted (S.nameOf i) ++ ")"
  | .relation i => "Relation(" ++ Text.quoted (S.nameOf i) ++ ")"

end Schema

end Criteria
