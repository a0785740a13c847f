import Criteria.Derive.Declaration
import Criteria.Derive.Lexer
import Criteria.Filter.Basic

/-!
# Derived filters

From the declaration of a structure follow the declaration table of a filter and
the arms of its accessor, one for each field that is not skipped. The shape in
which an arm reads its field goes by the same order of precedence as the role
that the tags settle on, so a derived filter never holds an input of the wrong
shape.
-/

namespace Criteria.Derive

/-- Shape in which a field is read. -/
inductive Shape where
  | value
  | group
  | period
deriving DecidableEq, Repr

def Shape.name : Shape → String
  | value => "value"
  | group => "group"
  | period => "period"

/-- The shape in which a field with these attributes is read. -/
def FieldAttributes.shape (a : FieldAttributes) : Shape :=
  if a.between.isSome || a.join then .value
  else if a.group.isSome then .group
  else if a.period.isSome then .period
  else .value

/-- A declared field of a derived filter. -/
structure DerivedField where
  name : String
  attributes : FieldAttributes
deriving DecidableEq, Repr

/-- Arm of a derived accessor: the field it answers to, the identifier that it
reads, in which shape, and whether a missing content is told apart. -/
structure Arm where
  field : String
  identifier : Word
  shape : Shape
  isOptional : Bool
deriving DecidableEq, Repr

namespace Arm

/-- Whether the arm maps a missing content to a missing input. A value is read
as it is. -/
def optional? (a : Arm) : Option Bool :=
  match a.shape with
  | .value => none
  | _ => some a.isOptional

/-- The text of the accessor behind `self.`, up to its next sign and without
gaps. A nested filter that is always there is borrowed and cast, so the word
`as` follows. -/
def accessor (a : Arm) : String :=
  match a.shape, a.isOptional with
  | .group, false => a.identifier.written ++ "as"
  | _, _ => a.identifier.written

end Arm

/-- What stands around the body of a derived implementation. -/
structure Header where
  generics : String
  target : String
  conditions : Option String
deriving DecidableEq, Repr

/-- A derived filter: its name, the header shared by its implementations, the
entity it is bound to, its fields and its arms. -/
structure Expansion where
  name : String
  header : Header
  entity : Option String
  fields : List DerivedField
  arms : List Arm
deriving DecidableEq, Repr

/-- Generic parameters, lifetimes first, each by `part` and with the comma that
followed it. -/
def parameterTokens (part : Parameter → List Token) (ps : List Parameter) : List Token :=
  lifetimesFirst (ps.map fun p => ⟨part p, p.isLifetime, p.hasComma⟩)

/-- The header of the implementations for an item. -/
def Item.header (i : Item) : Header where
  generics := compactText (parameterTokens (·.declared) i.parameters)
  target :=
    if i.parameters.isEmpty then i.name.written
    else i.name.written ++ "<" ++ compactText (parameterTokens (·.used) i.parameters) ++ ">"
  conditions := if i.conditions.isEmpty then none else some (compactText i.conditions)

/-- Reads the attributes of all fields in order, each field with its own. -/
def readFieldAttributes (fields : List FieldDeclaration) :
    Except DeriveError (List (FieldDeclaration × FieldAttributes)) :=
  fields.mapM fun f => do
    let a ← FieldAttributes.read f.attributes
    return (f, a)

/-- Derives a filter from an item. -/
def Item.expand (i : Item) : Except DeriveError Expansion := do
  let entities ← readEntities i.attributes
  match i.fields? with
  | none => .error .noNamedFields
  | some fields => do
      let declared ← readFieldAttributes fields
      let kept := declared.filter fun p => !p.2.skip
      return {
        name := i.name.text
        header := i.header
        entity := entities.getLast?.map compactText
        fields := kept.map fun p => ⟨p.1.name.text, p.2⟩
        arms := kept.map fun p => ⟨p.1.name.text, p.1.name, p.2.shape, p.1.isOptional⟩ }

/-- Derives a filter from the text of an item. -/
def expand (text : String) : Except DeriveError Expansion :=
  match tokens? text with
  | some ts => (readItem ts).bind Item.expand
  | none => .error .notTokens

/-- What a field of a structure yields, whichever shape it is read in. -/
structure FieldContent where
  value : Value := .null
  nested : Option Filter := none
  period : Option DatePeriod := none

/-- What an arm finds, given what its field yields. -/
def Arm.slot (a : Arm) (content : FieldContent) : Slot :=
  match a.shape with
  | .value => .value content.value
  | .group => .group content.nested
  | .period => .period content.period

/-- The declaration table of a derived filter, unless an attribute names an
operation or an operator that does not exist. -/
def Expansion.descriptors? (e : Expansion) : Option (List FieldDescriptor) :=
  e.fields.mapM fun f => f.attributes.tags?.map fun tags => ⟨f.name, tags⟩

/-- The derived filter of a structure whose fields yield the given contents. -/
def Expansion.filter? (e : Expansion) (content : String → FieldContent) : Option Filter :=
  e.descriptors?.map fun fields =>
    .mk e.name fields (e.arms.map fun a => (a.field, a.slot (content a.field)))

end Criteria.Derive
