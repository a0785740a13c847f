import Criteria.Filter.Declaration
import Criteria.Text.Quoted
import Criteria.Value.Basic

/-!
# Filters

A filter is a table of declared fields together with what its accessor finds
under each name: a value, a nested filter, a period, or a failure. The accessor
goes by name and takes the first slot of that name, so a declared field without
a slot cannot be read.
-/

namespace Criteria

/-- A requested period; either end may be open. -/
structure DatePeriod where
  start : Option Date := none
  stop : Option Date := none
deriving DecidableEq

mutual

/-- A filter: its name, its declaration table and its slots. -/
inductive Filter where
  | mk (name : String) (fields : List FieldDescriptor) (slots : List (String × Slot))

/-- What the accessor of a filter finds under a name. -/
inductive Slot where
  | value (content : Value)
  | group (nested : Option Filter)
  | period (content : Option DatePeriod)
  /-- Reading fails for the given reason. -/
  | broken (reason : String)

end

/-- Content of a filter field. -/
inductive FieldInput where
  | value (content : Value)
  | group (nested : Option Filter)
  | period (content : Option DatePeriod)

/-- Why a field cannot be read. -/
inductive AccessError where
  | unknownField (filter field : String)
  | unreadable (field reason : String)
deriving DecidableEq, Repr

def AccessError.message : AccessError → String
  | unknownField filter field =>
      "filter '" ++ filter ++ "' has no readable field '" ++ field ++ "'"
  | unreadable field reason => "field '" ++ field ++ "' could not be read: " ++ reason

namespace Filter

def name : Filter → String
  | mk name _ _ => name

/-- Declared fields, in declaration order. -/
def fields : Filter → List FieldDescriptor
  | mk _ fields _ => fields

def slots : Filter → List (String × Slot)
  | mk _ _ slots => slots

/-- Reads a field by its name. -/
def read (f : Filter) (field : String) : Except AccessError FieldInput :=
  match f.slots.lookup field with
  | none => .error (.unknownField f.name field)
  | some (.value content) => .ok (.value content)
  | some (.group nested) => .ok (.group nested)
  | some (.period content) => .ok (.period content)
  | some (.broken reason) => .error (.unreadable field reason)

/-- The accessor finds the other filter under some name. -/
def Nests (f g : Filter) : Prop := ∃ field, f.read field = .ok (.group (some g))

/-- A filter is larger than those it holds, so none is nested without end. -/
theorem sizeOf_lt_of_nests {f g : Filter} (h : f.Nests g) : sizeOf g < sizeOf f := by
  obtain ⟨name, fields, slots⟩ := f
  obtain ⟨field, hread⟩ := h
  have hslot : slots.lookup field = some (.group (some g)) := by
    rw [read, Filter.slots] at hread
    split at hread <;> cases hread
    assumption
  obtain ⟨before, after, rfl, -⟩ := List.lookup_eq_some_iff.mp hslot
  have hmem : (field, Slot.group (some g)) ∈ before ++ (field, .group (some g)) :: after :=
    List.mem_append_right before List.mem_cons_self
  have hlt := List.sizeOf_lt_of_mem hmem
  simp only [mk.sizeOf_spec, Prod.mk.sizeOf_spec, Slot.group.sizeOf_spec,
    Option.some.sizeOf_spec] at hlt ⊢
  omega

end Filter

namespace FieldInput

/-- There is no value, no nested filter or no period. -/
def isNull : FieldInput → Bool
  | value content => content.isNull
  | group nested => nested.isNone
  | period content => content.isNone

/-- A value that is a collection without members. -/
def isEmptyList : FieldInput → Bool
  | value content => content.isEmptyList
  | _ => false

/-- Name of the shape of the input, for messages. -/
def shape : FieldInput → String
  | value _ => "value"
  | group _ => "group"
  | period _ => "period"

end FieldInput

def describeOption (content : Option String) : String :=
  match content with
  | none => "None"
  | some s => "Some(" ++ s ++ ")"

def DatePeriod.describe (p : DatePeriod) : String :=
  "DatePeriod \x7b start: " ++ describeOption (p.start.map (·.toText)) ++ ", end: " ++
    describeOption (p.stop.map (·.toText)) ++ " \x7d"

/-- Description of an input, where that of a value is given. -/
def FieldInput.describe (ofValue : Value → String) : FieldInput → String
  | value content => "Value(" ++ ofValue content ++ ")"
  | group nested => "Group(" ++ describeOption (nested.map fun f => Text.quoted f.name) ++ ")"
  | period content => "Period(" ++ describeOption (content.map (·.describe)) ++ ")"

end Criteria
