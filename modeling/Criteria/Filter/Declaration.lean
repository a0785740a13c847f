import Criteria.Operation
import Criteria.Unicode.WhiteSpace

/-!
# Declarations of filter fields

A filter declares its fields in a table. Each entry names a field and carries
the tags attached to it. Tags may contradict each other; `FieldDescriptor.metadata`
settles them once, in favour of the first of: a range between two properties, a
join, a group, a period, a plain comparison.
-/

namespace Criteria

/-- The properties at the two ends of a stored range. -/
structure PropertyPair where
  lower : String
  upper : String
deriving DecidableEq, Repr

/-- Tags attached to a filter field. -/
structure FieldTags where
  /-- Path of the constrained property; a blank one counts as none. -/
  property : Option String := none
  operation : Option Operation := none
  /-- A null input asks for a missing value instead of nothing. -/
  nullable : Bool := false
  /-- The input lies between the values of two properties. -/
  between : Option PropertyPair := none
  /-- The property is reached through joins. -/
  join : Bool := false
  /-- The input is a filter of its own. -/
  group : Option Operator := none
  /-- The input is a period, met by the one stored in two properties. -/
  period : Option PropertyPair := none
deriving DecidableEq, Repr

/-- Entry of the declaration table. The name is also the key under which the
field is read. -/
structure FieldDescriptor where
  name : String
  tags : FieldTags := {}
deriving DecidableEq, Repr

/-- What a field contributes. -/
inductive FieldRole where
  | leaf
  | between (bounds : PropertyPair)
  | join
  | group (operator : Operator)
  | period (bounds : PropertyPair)
deriving DecidableEq, Repr

/-- Declaration of a field with its role settled and its defaults filled in. -/
structure FieldMetadata where
  field : String
  property : String
  operation : Operation
  nullable : Bool
  role : FieldRole
deriving DecidableEq, Repr

/-- A text of white space only. -/
def isBlank (s : String) : Bool := s.toList.all Unicode.isWhiteSpace

/-- The role that the tags settle on. -/
def FieldTags.role (tags : FieldTags) : FieldRole :=
  match tags.between, tags.join, tags.group, tags.period with
  | some bounds, _, _, _ => .between bounds
  | none, true, _, _ => .join
  | none, false, some operator, _ => .group operator
  | none, false, none, some bounds => .period bounds
  | none, false, none, none => .leaf

/-- The declaration with its defaults: the property is named like the field, and
the operation is equality. -/
def FieldDescriptor.metadata (d : FieldDescriptor) : FieldMetadata where
  field := d.name
  property := (d.tags.property.filter fun p => !isBlank p).getD d.name
  operation := d.tags.operation.getD .equal
  nullable := d.tags.nullable
  role := d.tags.role

end Criteria
