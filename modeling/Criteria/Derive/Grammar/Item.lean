import Criteria.Derive.Grammar.Expression
import Criteria.Derive.Grammar.Field

/-!
# Items in the grammar

The items that may stand inside of a block: functions, types, constants, modules,
traits and their implementations, imports and macro definitions.
-/

namespace Criteria.Derive

namespace Grammar

open Copier

/-- Copies generic parameters, lifetimes first. -/
def copyParameters (g : Grammar) : Copier Unit := do
  if aheadSign "<" (← ahead) then do
    let ps ← readParameters g
    write [.sign '<' false]
    write (lifetimesFirst
      (ps.map fun p => ⟨p.declared ++ p.fallback, p.isLifetime, p.hasComma⟩))
    write [.sign '>' false]

def copyConditions (g : Grammar) : Copier Unit := do
  let (conditions, hasComma) ← readConditions g
  if !conditions.isEmpty then
    write (.word ⟨"where", false⟩ :: conditions ++ if hasComma then [.sign ',' false] else [])

/-- The body of an item in braces, with attributes of its own in front. -/
def copyBraces (g : Grammar) (part : Copier Unit) : Copier Unit :=
  copyGroup .brace do
    copyInnerAttributes g
    loop do
      if (← atEnd) then return false
      part
      return true

/-- The receiver of a function follows, and how many tokens it has in front of
its type. -/
def receiverLength? (ts : List Token) : Option Nat :=
  let reference := if aheadSign "&" ts then 1 else 0
  let lifetime := if reference = 1 && aheadLifetime (ts.drop 1) then 1 else 0
  let front := reference + lifetime
  let isMutable := if aheadWord "mut" (ts.drop front) then 1 else 0
  let length := front + isMutable + 1
  if aheadWord "self" (ts.drop (length - 1)) && !aheadColons (ts.drop length) then some length
  else none

/-- Copies the argument of a function, in front of which its attributes are. -/
def copyNamedArgument (g : Grammar) : Copier Unit := do
  match receiverLength? (← ahead) with
  | some n => do
      let hasReference := aheadSign "&" (← ahead)
      copyTokens n
      if !hasReference && (← copySign? ":") then
        let _ ← g.type true
  | none => do
      let _ ← g.pattern
      copySign ":"
      if !(← copySign? "...") then
        let _ ← g.type true

/-- Copies a function: its head, and its block or a semicolon. -/
def copyFunction (g : Grammar) : Copier Unit := do
  for word in ["const", "async", "unsafe"] do
    let _ ← copyWord? word
  if (← copyWord? "extern") then
    let _ ← copyIf aheadText 1
  copyWord "fn"
  let _ ← copyName
  copyParameters g
  copyGroup .parenthesis <| copyAll do
    let _ ← copyAttributes g
    if !(← copySign? "...") then copyNamedArgument g
  copyResult g true
  copyConditions g
  if !(← copySign? ";") then g.block true

/-- A function follows, maybe behind marks. -/
def aheadFunction (ts : List Token) : Bool :=
  let rest := ts.dropWhile fun t => aheadOneOf ["const", "async", "unsafe"] [t]
  let rest := if aheadWord "extern" rest then rest.drop (if aheadText (rest.drop 1) then 2 else 1)
    else rest
  aheadWord "fn" rest

/-- Copies the value behind an equality sign, if there is one. -/
def copyValue (g : Grammar) : Copier Unit := do
  if (← copySign? "=") then
    let _ ← g.expression true

def copyConstantItem (g : Grammar) : Copier Unit := do
  let isStatic ← copyWord? "static"
  if !isStatic then copyWord "const"
  let _ ← copyWord? "mut"
  if !(← copyWord? "_") then
    let _ ← copyName
  copyParameters g
  if !isStatic || !aheadAssignment (← ahead) then do
    copySign ":"
    let _ ← g.type true
  copyValue g
  copyConditions g
  copySign ";"

/-- Where the bounds of a type item end. -/
def endsItemBounds (ts : List Token) : Bool :=
  aheadWord "where" ts || aheadSign "=" ts || aheadSign ";" ts || aheadGroup .brace ts

/-- Copies bounds behind a colon or another sign, if it is ahead. -/
def copySignBounds (g : Grammar) (sign : String) : Copier Unit := do
  if (← copySign? sign) then copyBoundsUpTo g endsItemBounds parameterBounds

def copyTypeItem (g : Grammar) : Copier Unit := do
  copyWord "type"
  let _ ← copyName
  copyParameters g
  copySignBounds g ":"
  copyConditions g
  if (← copySign? "=") then
    let _ ← g.type true
  copyConditions g
  copySign ";"

/-- Copies the tree of an import, at most `fuel` levels deep. -/
def copyImports : Nat → Copier Unit
  | 0 => expected "identifier"
  | fuel + 1 => do
      let ts ← ahead
      if aheadPathWord ts || aheadWord "try" ts then do
        copyTokens 1
        if (← copySign? "::") then copyImports fuel
        else if (← copyWord? "as") then
          if !(← copyWord? "_") then
            if aheadName (← ahead) then copyTokens 1 else expected "identifier or underscore"
      else if (← copySign? "*") then return ()
      else if aheadGroup .brace ts then
        copyGroup .brace <| copyAll do
          let _ ← copySign? "::"
          copyImports fuel
      else expected "one of: identifier, `self`, `super`, `crate`, `try`, `*`, curly braces"

/-- Copies a macro call or definition that is an item. -/
def copyMacroItem : Copier Unit := do
  copyPlainPath
  copySign "!"
  let _ ← copyIf (fun ts => aheadName ts || aheadWord "try" ts) 1
  if (← copyTree) != .brace then copySign ";"

/-- Copies a macro definition behind its word: maybe its arguments, and its body. -/
def copyMacroDefinition : Copier Unit := do
  copyWord "macro"
  let _ ← copyName
  let _ ← copyIf (aheadGroup .parenthesis) 1
  if !(← copyIf (aheadGroup .brace) 1) then expected Delimiter.brace.plural

/-- Copies a part of a trait, an implementation or an outer block. -/
def copyMemberItem (g : Grammar) : Copier Unit := do
  let _ ← copyAttributes g
  let _ ← copyVisibility
  if aheadWord "default" (← ahead) && !aheadSign "!" ((← ahead).drop 1) then copyTokens 1
  let ts ← ahead
  if aheadFunction ts then copyFunction g
  else if aheadOneOf ["const", "static"] ts then copyConstantItem g
  else if aheadWord "type" ts then copyTypeItem g
  else copyMacroItem

/-- Copies a trait: its name, and its members or what it abbreviates. -/
def copyTraitItem (g : Grammar) : Copier Unit := do
  let _ ← copyWord? "unsafe"
  let _ ← copyWord? "auto"
  copyWord "trait"
  let _ ← copyName
  copyParameters g
  if aheadSign "=" (← ahead) then do
    copySignBounds g "="
    copyConditions g
    copySign ";"
  else do
    copySignBounds g ":"
    copyConditions g
    copyBraces g (copyMemberItem g)

def copyImplementation (g : Grammar) : Copier Unit := do
  let _ ← copyWord? "default"
  let _ ← copyWord? "unsafe"
  copyWord "impl"
  if opensParameters (← ahead) then copyParameters g
  let _ ← copyWord? "const"
  let _ ← copySign? "!"
  let _ ← g.type true
  if (← copyWord? "for") then
    let _ ← g.type true
  copyConditions g
  copyBraces g (copyMemberItem g)

/-- Copies an item that is declared outside, or a block of them. -/
def copyOuterItem (g : Grammar) : Copier Unit := do
  let _ ← copyWord? "unsafe"
  copyWord "extern"
  if (← copyWord? "crate") then do
    if !(← copyWord? "self") then
      let _ ← copyName
    if (← copyWord? "as") then
      if !(← copyWord? "_") then
        let _ ← copyName
    copySign ";"
  else do
    let _ ← copyIf aheadText 1
    copyBraces g (copyMemberItem g)

def copyModule (g : Grammar) : Copier Unit := do
  let _ ← copyWord? "unsafe"
  copyWord "mod"
  if !(← copyWord? "try") then
    let _ ← copyName
  if !(← copySign? ";") then copyBraces g do
    let _ ← copyAttributes g
    g.item

/-- Copies a structure, which is written as it is read, an enumeration or a union. -/
def copyDataItem (g : Grammar) : Copier Unit := do
  let isStructure ← copyWord? "struct"
  let isEnumeration ← copyWord? "enum"
  if !isStructure && !isEnumeration then copyWord "union"
  let _ ← copyName
  copyParameters g
  if isStructure then
    let _ ← verbatim (readStructure g)
  else do
    copyConditions g
    if isEnumeration then copyVariants g
    else
      let _ ← readFields g

def copyItem (g : Grammar) : Copier Unit := do
  let isVisible ← copyVisibility
  let ts ← ahead
  let second := ts.drop 1
  if aheadFunction ts then copyFunction g
  else if (← copyWord? "use") then do
    let _ ← copySign? "::"
    copyImports (tokenCount ts + 1)
    copySign ";"
  else if aheadOneOf ["static", "const"] ts then copyConstantItem g
  else if aheadWord "type" ts then copyTypeItem g
  else if aheadOneOf ["struct", "enum"] ts || (aheadWord "union" ts && aheadName second) then
    copyDataItem g
  else if aheadOneOf ["trait", "auto"] ts ||
      (aheadWord "unsafe" ts && aheadOneOf ["trait", "auto"] second) then
    copyTraitItem g
  else if aheadWord "impl" ts || (aheadWord "default" ts && !aheadSign "!" second) ||
      (aheadWord "unsafe" ts && aheadWord "impl" second) then
    copyImplementation g
  else if aheadWord "mod" ts || (aheadWord "unsafe" ts && aheadWord "mod" second) then
    copyModule g
  else if aheadOneOf ["extern", "unsafe"] ts then copyOuterItem g
  else if aheadWord "macro" ts then copyMacroDefinition
  else if isVisible then expected "an item"
  else copyMacroItem

end Grammar

end Criteria.Derive
