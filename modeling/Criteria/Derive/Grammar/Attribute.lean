import Criteria.Derive.Grammar.Basic

/-!
# Attributes in the grammar

An attribute has a path in front and behind it nothing, a value, or a list of
tokens in delimiters, which the grammar does not look into.
-/

namespace Criteria.Derive

/-- What stands behind the path of an attribute. -/
inductive Arguments where
  | none
  | assigned
  | list (content : List Token)

/-- An attribute, as far as it matters: whether its path is `filter`, and its
arguments. -/
structure Attribute where
  isFilter : Bool
  arguments : Arguments

namespace Grammar

open Copier

def copyPlainPath : Copier Unit := do
  let _ ← copySign? "::"
  let ts ← ahead
  match behindPlainPath? (ts.length + 1) ts with
  | some rest => copyTokens (ts.length - rest.length)
  | none =>
      if aheadPathWord ts then do
        loop do
          if aheadPathWord (← ahead) then
            copyTokens 1
            copySign? "::"
          else return false
        expected ("path segment after " ++ ticked "::")
      else do
        let _ ← copyName

/-- The path of an attribute, which may be the word `unsafe`. -/
def copyAttributePath : Copier Unit := do
  if !(← copyWord? "unsafe") then copyPlainPath

/-- The tokens are the path of the attributes that count. -/
def isFilterPath : List Token → Bool
  | [.word w] => w.is "filter"
  | _ => false

def readAttribute (g : Grammar) : Copier Attribute := do
  let before ← ahead
  copyAttributePath
  let rest ← ahead
  let isFilter := isFilterPath (before.take (before.length - rest.length))
  match rest with
  | .group _ content :: _ => do
      copyTokens 1
      return ⟨isFilter, .list content⟩
  | _ =>
      if (← copySign? "=") then do
        if aheadSign "#" (← ahead) && aheadGroup .bracket ((← ahead).drop 1) then
          throw .attributeAsValue
        let _ ← g.expression true
        return ⟨isFilter, .assigned⟩
      else return ⟨isFilter, .none⟩

/-- Reads the attributes in front of something, in at most `fuel` rounds. -/
def readAttributesUpTo (g : Grammar) : Nat → Copier (List Attribute)
  | 0 => return []
  | fuel + 1 => do
      if (← copySign? "#") then do
        let a ← copyGroup .bracket (readAttribute g)
        let more ← readAttributesUpTo g fuel
        return a :: more
      else return []

def readAttributes (g : Grammar) : Copier (List Attribute) := do
  readAttributesUpTo g ((← ahead).length + 1)

/-- Copies the attributes in front of something and tells whether there are any. -/
def copyAttributes (g : Grammar) : Copier Bool := do
  return !(← readAttributes g).isEmpty

/-- Copies the attributes that stand inside of what they belong to. -/
def copyInnerAttributes (g : Grammar) : Copier Unit :=
  loop do
    let ts ← ahead
    if aheadSign "#" ts && aheadSign "!" (ts.drop 1) then
      copyTokens 2
      let _ ← copyGroup .bracket (readAttribute g)
      return true
    else return false

end Grammar

end Criteria.Derive
