import Criteria.Derive.Grammar.Bound

/-!
# Fields and variants in the grammar

A structure or a variant has named fields, fields that go by their positions, or
none. A nameless field may hold the fields of a structure or union without a name
of its own.
-/

namespace Criteria.Derive

/-- A named field: its attributes, its name, and whether its type is optional. -/
structure FieldDeclaration where
  attributes : List Attribute
  name : Word
  isOptional : Bool

namespace Grammar

open Copier

/-- Parentheses behind `pub` that restrict a visibility to a module: one of the
words for it alone. -/
def isModuleRestriction : List Token → Bool
  | [.word w] => w.is "crate" || w.is "self" || w.is "super"
  | _ => false

/-- Copies a visibility and tells whether there is one. Parentheses that do not
restrict it belong to what follows. -/
def copyVisibility : Copier Bool := do
  if (← copyWord? "pub") then do
    match (← ahead) with
    | .group .parenthesis content :: _ =>
        if isModuleRestriction content then copyTokens 1
        else if aheadWord "in" content then copyGroup .parenthesis do
          copyTokens 1
          copyPlainPath
    | _ => pure ()
    return true
  else return false

/-- Copies the name of a field. An underscore alone is one. -/
def copyFieldName : Copier Word := do
  if aheadWord "_" (← ahead) then copyAnyWord else copyName

/-- Fields of a structure or union without a name follow. -/
def aheadNamelessFields (ts : List Token) : Bool :=
  aheadWord "struct" ts || (aheadWord "union" ts && aheadGroup .brace (ts.drop 1))

/-- Reads one named field; `fields` copies those of a nameless one. -/
def readFieldWith (g : Grammar) (fields : Copier Unit) : Copier FieldDeclaration := do
  let attributes ← readAttributes g
  let _ ← copyVisibility
  let name ← copyFieldName
  copySign ":"
  if name.is "_" && aheadNamelessFields (← ahead) then do
    copyTokens 1
    verbatim fields
    return ⟨attributes, name, false⟩
  else do
    let form ← g.type true
    return ⟨attributes, name, form.isOptional⟩

/-- Copies named fields in braces, at most `fuel` of them inside of one another. -/
def copyNestedFields (g : Grammar) : Nat → Copier Unit
  | 0 => expected Delimiter.brace.plural
  | fuel + 1 => copyGroup .brace <| copyAll do
      let _ ← readFieldWith g (copyNestedFields g fuel)

def readField (g : Grammar) : Copier FieldDeclaration := do
  readFieldWith g (copyNestedFields g (tokenCount (← ahead) + 1))

def readFields (g : Grammar) : Copier (List FieldDeclaration) :=
  copyGroup .brace (readAll (readField g))

/-- Copies fields in parentheses, which go by their positions. -/
def copyTupleFields (g : Grammar) : Copier Unit :=
  copyGroup .parenthesis <| copyAll do
    let _ ← copyAttributes g
    let _ ← copyVisibility
    let _ ← g.type true

/-- Copies a variant of an enumeration, with its fields and its number. -/
def copyVariant (g : Grammar) : Copier Unit := do
  let _ ← copyAttributes g
  let _ ← copyVisibility
  let _ ← copyName
  let ts ← ahead
  if aheadGroup .brace ts then
    let _ ← readFields g
  else if aheadGroup .parenthesis ts then copyTupleFields g
  if (← copySign? "=") then
    let _ ← g.expression true

/-- Copies the variants of an enumeration in braces. -/
def copyVariants (g : Grammar) : Copier Unit := copyGroup .brace (copyAll (copyVariant g))

/-- Reads the body of a structure: its conditions, which stand behind the fields
if those go by their positions, and its named fields, if it has any. -/
def readStructure (g : Grammar) : Copier (List Token × Option (List FieldDeclaration)) := do
  let hasConditions := aheadWord "where" (← ahead)
  let (conditions, _) ← readConditions g
  let ts ← ahead
  if !hasConditions && aheadGroup .parenthesis ts then do
    copyTupleFields g
    let hasConditions := aheadWord "where" (← ahead)
    let (conditions, _) ← readConditions g
    if (← copySign? ";") then return (conditions, none)
    else if hasConditions then expected "`;`"
    else expected "`where` or `;`"
  else if aheadGroup .brace ts then do
    let fields ← readFields g
    return (conditions, some fields)
  else if (← copySign? ";") then return (conditions, none)
  else if hasConditions then expected "curly braces or `;`"
  else expected "one of: `where`, parentheses, curly braces, `;`"

end Grammar

end Criteria.Derive
