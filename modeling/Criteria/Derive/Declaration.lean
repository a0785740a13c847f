import Criteria.Derive.Attribute

/-!
# Declarations of items

An item is read as far as a derivation needs it: its attributes, its name, its
generic parameters with their conditions, and the fields of a structure that has
named ones. Everything else about it is read through, so that what is wrong with
it is reported before anything else.
-/

namespace Criteria.Derive

/-- An item, with its fields if it is a structure with named ones. -/
structure Item where
  attributes : List Attribute
  name : Word
  parameters : List Parameter
  /-- Conditions on the parameters, without the comma behind the last. -/
  conditions : List Token
  fields? : Option (List FieldDeclaration)

open Copier Grammar

/-- What an item has to start with. -/
def itemStarts : String := "one of: `struct`, `enum`, `union`"

/-- Reads an item behind its attributes and visibility. -/
def readItemBody (g : Grammar) (attributes : List Attribute) : Copier Item := do
  let isStructure ← copyWord? "struct"
  let isEnumeration ← copyWord? "enum"
  if !isStructure && !isEnumeration && !(← copyWord? "union") then expected itemStarts
  let name ← copyName
  let parameters ← readParameters g
  if isStructure then do
    let (conditions, fields?) ← readStructure g
    return ⟨attributes, name, parameters, conditions, fields?⟩
  else do
    let (conditions, _) ← readConditions g
    if isEnumeration then copyVariants g
    else
      let _ ← readFields g
    return ⟨attributes, name, parameters, conditions, none⟩

def copyDeclaration (g : Grammar) : Copier Item := do
  let attributes ← readAttributes g
  let _ ← copyVisibility
  readItemBody g attributes

/-- Reads an item, of which nothing may be left over. -/
def readItem (ts : List Token) : Except DeriveError Item := do
  let (item, s) ← (copyDeclaration (ofTokens ts)).run ⟨ts, [], none⟩
  match s.leftover, s.ahead with
  | some d, _ => .error (.unexpectedToken (some d))
  | none, [] => .ok item
  | none, _ :: _ => .error (.unexpectedToken none)

end Criteria.Derive
