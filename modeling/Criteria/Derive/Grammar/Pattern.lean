import Criteria.Derive.Grammar.Path

/-!
# Patterns in the grammar

A pattern is a name, a path with or without parts, a literal, a range, or built
from other patterns. A bar between patterns is admitted only where the pattern
has an end of its own, as inside of parentheses or in front of an arrow.
-/

namespace Criteria.Derive

namespace Grammar

open Copier

/-- A bar between patterns follows. -/
def aheadBar (ts : List Token) : Bool :=
  aheadSign "|" ts && !aheadSign "||" ts && !aheadSign "|=" ts

/-- Copies patterns with bars between them; one may be in front of the first. -/
def copyAlternatives (g : Grammar) : Copier PatternForm := do
  let hasBar ← copySign? "|"
  let form ← g.pattern
  let hasMore := aheadBar (← ahead)
  loop do
    if aheadBar (← ahead) then do
      copyTokens 1
      let _ ← g.pattern
      return true
    else return false
  return if hasBar || hasMore then .other else form

/-- Copies patterns with commas between them to the end. -/
def copyPatterns (g : Grammar) : Copier Unit := copyAll do
  let _ ← copyAlternatives g

/-- The end of a range is left out here. -/
def endsRange (ts : List Token) : Bool :=
  ts.isEmpty || aheadSign "|" ts || aheadSign "=" ts || aheadColon ts || aheadSign "," ts ||
    aheadSign ";" ts || aheadWord "if" ts

/-- Copies an end of a range and tells whether there is one. -/
def copyRangeEnd (g : Grammar) : Copier Bool := do
  let ts ← ahead
  if endsRange ts then return false
  if aheadLiteral ts then copyLiteral
  else if aheadPathWord ts || aheadColons ts || aheadSign "<" ts then
    let _ ← copyAnyPath g true
  else if aheadWord "const" ts then do
    copyTokens 1
    g.block true
  else expected ("one of: literal, identifier, `::`, `<`, `self`, `Self`, `super`, `crate`, " ++
    ticked "const")
  return true

/-- Copies the dots of a range and tells whether they include its upper end. -/
def copyDots (allowsThree : Bool) : Copier Bool := do
  if (← copySign? "..=") then return true
  else if aheadSign "..." (← ahead) then
    if allowsThree then do
      copyTokens 3
      return true
    else expected (ticked ".." ++ " or " ++ ticked "..=")
  else do
    copySign ".."
    return false

/-- Copies the upper end of a range behind its dots. -/
def copyUpperEnd (g : Grammar) (isIncluded : Bool) (form : PatternForm) :
    Copier PatternForm := do
  if (← copyRangeEnd g) then return .other
  else if isIncluded then expected "range upper bound"
  else return form

/-- Copies the field of a pattern with fields behind its attributes. -/
def copyFieldPattern (g : Grammar) : Copier Unit := do
  let isBoxed ← copyWord? "box"
  let isReference ← copyWord? "ref"
  let isMutable ← copyWord? "mut"
  match (← ahead) with
  | .literal l :: _ =>
      if l.kind = .whole && !isBoxed && !isReference && !isMutable then do
        copyTokens 1
        copySign ":"
        let _ ← copyAlternatives g
      else expected "identifier or integer"
  | _ => do
      let _ ← copyName
      if !isBoxed && !isReference && !isMutable && (← copySign? ":") then
        let _ ← copyAlternatives g

/-- Copies the fields of a pattern to the end; dots may stand for the rest. -/
def copyFieldPatterns (g : Grammar) : Copier Unit :=
  loop do
    if (← atEnd) then return false
    let _ ← copyAttributes g
    if (← copySign? "..") then return false
    copyFieldPattern g
    if (← atEnd) then return false
    copySign ","
    return true

def copyPathPattern (g : Grammar) : Copier PatternForm := do
  let (p, isMember) ← copyAnyPath g true
  if (← copyMacroCall? p isMember).isSome then return .other
  let ts ← ahead
  if aheadGroup .brace ts then copyGroup .brace (copyFieldPatterns g)
  else if aheadGroup .parenthesis ts then copyGroup .parenthesis (copyPatterns g)
  else if aheadSign ".." ts then return (← copyUpperEnd g (← copyDots true) .openRange)
  return .other

/-- Copies a name, which may have a pattern behind it. -/
def copyNamePattern (g : Grammar) : Copier PatternForm := do
  let _ ← copyWord? "ref"
  let _ ← copyWord? "mut"
  if !(← copyWord? "self") then
    let _ ← copyName
  if (← copySign? "@") then
    let _ ← g.pattern
  return .other

/-- Copies a pattern that starts with a literal or a constant. -/
def copyValuePattern (g : Grammar) : Copier PatternForm := do
  let _ ← copyRangeEnd g
  if aheadSign ".." (← ahead) then copyUpperEnd g (← copyDots true) .openRange
  else return .other

def copySlicePattern (g : Grammar) : Copier PatternForm := do
  copyGroup .bracket <| copyAll do
    if (← copyAlternatives g) = .openRange then throw .openRangeInSlice
  return .other

/-- A name with something behind it that goes on with a path. -/
def aheadLongPath (ts : List Token) : Bool :=
  let second := ts.drop 1
  aheadName ts &&
    (aheadColons second || aheadSign "!" second || aheadGroup .brace second ||
      aheadGroup .parenthesis second || aheadSign ".." second)

/-- What a pattern has to start with. -/
def patternStarts : String :=
  "one of: identifier, `::`, `<`, `_`, literal, `const`, `ref`, `mut`, `&`, parentheses, " ++
  "square brackets, `..`"

/-- Copies a pattern without bars. A box around one is written as it is read. -/
def copyPattern (g : Grammar) : Copier PatternForm := do
  let ts ← ahead
  if aheadLongPath ts || (aheadWord "self" ts && aheadColons (ts.drop 1)) || aheadColons ts ||
      aheadSign "<" ts || aheadOneOf ["Self", "super", "crate"] ts then
    copyPathPattern g
  else if (← copyWord? "_") then return .other
  else if aheadWord "box" ts then verbatim do
    copyTokens 1
    g.pattern
  else if aheadSign "-" ts || aheadLiteral ts || aheadWord "const" ts then copyValuePattern g
  else if aheadOneOf ["ref", "mut", "self"] ts || aheadName ts then copyNamePattern g
  else if (← copySign? "&") then do
    let _ ← copyWord? "mut"
    let _ ← g.pattern
    return .other
  else if aheadGroup .parenthesis ts then do
    copyGroup .parenthesis (copyPatterns g)
    return .other
  else if aheadGroup .bracket ts then copySlicePattern g
  else if aheadSign ".." ts && !aheadSign "..." ts then
    let isIncluded ← copyDots false
    if (← copyUpperEnd g isIncluded .rest) = .rest then return .rest else return .openRange
  else expected patternStarts

end Grammar

end Criteria.Derive
