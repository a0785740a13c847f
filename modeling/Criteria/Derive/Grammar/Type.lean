import Criteria.Derive.Grammar.Bound

/-!
# Types in the grammar

A type is a path, a member of a type, a list of bounds, or built from other types
by a reference, a pointer, a tuple, an array or a function. Behind a reference, a
pointer or an arrow a plus sign does not go on with the type.
-/

namespace Criteria.Derive

namespace Grammar

open Copier

/-- Rules for the bounds of a trait object. -/
def objectBounds : BoundRules := ⟨false, false⟩

/-- Rules for the bounds of a type that is not named. -/
def hiddenBounds : BoundRules := ⟨true, true⟩

/-- Copies the bounds of a trait object, of which one has to be a trait. -/
def copyObjectBounds (g : Grammar) (allowsPlus : Bool) : Copier Unit := do
  let bounds ← copyBounds g allowsPlus objectBounds
  if !bounds.contains .trait then throw (.traitMissing true)

/-- Copies further bounds, a plus sign in front of each. -/
def copyMoreBounds (g : Grammar) : Copier Unit :=
  loop do
    if (← copySign? "+") then do
      let _ ← copyBound g objectBounds
      return true
    else return false

/-- What stands in parentheses at the start of a type. -/
inductive Parenthesized where
  /-- A type, which the parentheses may belong to if bounds follow. -/
  | single (form : TypeForm)
  /-- A bound with a question mark. -/
  | optional
  | other

/-- Copies what stands in parentheses at the start of a type. -/
def copyParenthesized (g : Grammar) : Copier Parenthesized := do
  let ts ← ahead
  if ts.isEmpty then return .other
  else if aheadLifetime ts then do
    copyObjectBounds g true
    return .other
  else if aheadSign "?" ts then do
    let _ ← copyTrait g false
    return .optional
  else do
    let form ← g.type true
    if (← copySign? ",") then do
      copyAll do
        let _ ← g.type true
      return .other
    else return .single form

/-- Copies a type that starts with a parenthesis. -/
def copyParenthesizedType (g : Grammar) (allowsPlus : Bool) : Copier TypeForm := do
  let p ← copyGroup .parenthesis (copyParenthesized g)
  let hasMore := aheadSign "+" (← ahead)
  match p with
  | .optional => do
      copyMoreBounds g
      return .bounds (!hasMore)
  | .single (.path _ _ _) | .single (.bounds true) =>
      if allowsPlus && hasMore then do
        copyMoreBounds g
        return .bounds false
      else return .other
  | _ => return .other

/-- Copies the argument of a function type behind its attributes. Only a first
one may be the receiver, which is written as it is read where it is mutable. -/
def copyFunctionArgument (g : Grammar) (isFirst : Bool) : Copier Unit := do
  let ts ← ahead
  let isNamed (ts : List Token) : Bool :=
    (aheadName ts || aheadWord "_" ts || (isFirst && aheadWord "self" ts)) &&
      aheadColon (ts.drop 1)
  let isMutable (ts : List Token) : Bool := aheadWord "mut" ts && aheadWord "self" (ts.drop 1)
  if isFirst && isMutable ts then verbatim do
    copyTokens 2
    if isNamed (ts.drop 1) then do
      copySign ":"
      let _ ← g.type true
  else if isFirst && isNamed ts && !aheadWord "self" ts && isMutable (ts.drop 2) then copyTokens 4
  else do
    if isNamed ts then copyTokens 2
    let _ ← g.type true

/-- Dots for further arguments follow, maybe behind a name. -/
def aheadVariadic (ts : List Token) : Bool :=
  aheadSign "..." ts ||
    ((aheadName ts || aheadWord "_" ts) && aheadSign ":" (ts.drop 1) &&
      aheadSign "..." (ts.drop 2))

def copyVariadic : Copier Unit := do
  if aheadAnyWord (← ahead) then copyTokens 2
  copySign "..."
  let _ ← copySign? ","

/-- Copies the arguments of a function type, in at most `fuel` rounds. -/
def copyFunctionArguments (g : Grammar) (isFirst : Bool) : Nat → Copier Unit
  | 0 => return ()
  | fuel + 1 => do
      if (← atEnd) then return ()
      let _ ← copyAttributes g
      if aheadVariadic (← ahead) then copyVariadic
      else do
        copyFunctionArgument g isFirst
        if (← atEnd) then return ()
        copySign ","
        copyFunctionArguments g false fuel

/-- Copies the name of a calling convention, if there is one. -/
def copyConvention : Copier Unit := do
  if (← copyWord? "extern") then
    let _ ← copyIf aheadText 1

/-- Copies a function type behind the lifetimes that it is for all of. -/
def copyFunctionType (g : Grammar) : Copier TypeForm := do
  let _ ← copyWord? "unsafe"
  copyConvention
  copyWord "fn"
  copyGroup .parenthesis do
    copyFunctionArguments g true (← ahead).length.succ
  copyResult g false
  return .other

/-- Copies bounds behind a first one, in at most `fuel` rounds. The last plus sign
may have none behind it. -/
def copyBoundsBehind (g : Grammar) : Nat → Copier Unit
  | 0 => return ()
  | fuel + 1 => do
      if (← copySign? "+") && aheadBound (← ahead) then do
        let _ ← copyBound g objectBounds
        copyBoundsBehind g fuel

def copyPathType (g : Grammar) (isBound allowsPlus : Bool) : Copier TypeForm := do
  let (p, isMember) ← copyAnyPath g false
  if isMember then return .member p.last
  if (← copyMacroCall? p false).isSome then return .other
  let hasMore := allowsPlus && aheadSign "+" (← ahead)
  if hasMore then copyBoundsBehind g (← ahead).length.succ
  return if isBound || hasMore then .bounds (!hasMore)
    else .path p.isRooted p.segments p.last

/-- Copies a trait object or a type that is not named, which start with a word. A
trait object with a star is written as it is read. -/
def copyBoundType (g : Grammar) (allowsPlus : Bool) : Copier TypeForm := do
  if aheadWord "dyn" (← ahead) then
    if aheadSign "*" ((← ahead).drop 1) then verbatim do
      copyTokens 2
      copyObjectBounds g allowsPlus
    else do
      copyTokens 1
      copyObjectBounds g allowsPlus
  else do
    copyWord "impl"
    let bounds ← copyBounds g allowsPlus hiddenBounds
    if !bounds.contains .trait then throw (.traitMissing false)
  return .other

def copyArrayType (g : Grammar) : Copier TypeForm := do
  copyGroup .bracket do
    let _ ← g.type true
    if (← copySign? ";") then
      let _ ← g.expression true
  return .other

def copyReferenceType (g : Grammar) : Copier TypeForm := do
  if (← copySign? "&") then do
    let _ ← copyIf aheadLifetime 1
    let _ ← copyWord? "mut"
  else do
    copySign "*"
    if !(← copyIf (aheadOneOf ["const", "mut"]) 1) then
      expected (ticked "const" ++ " or " ++ ticked "mut")
  let _ ← g.type false
  return .other

/-- What a type has to start with. -/
def typeStarts : String :=
  "one of: `for`, parentheses, `fn`, `unsafe`, `extern`, identifier, `::`, `<`, `dyn`, " ++
  "square brackets, `*`, `&`, `!`, `impl`, `_`, lifetime"

/-- What a type has to go on with behind the lifetimes that it is for all of. -/
def boundTypeStarts : String :=
  "one of: identifier, `fn`, `unsafe`, `extern`, `super`, `self`, `Self`, `crate`"

def copyType (g : Grammar) (allowsPlus : Bool) : Copier TypeForm := do
  let isBound ← copyBinder? g
  let ts ← ahead
  let startsFunction := aheadOneOf ["fn", "unsafe", "extern"] ts
  if isBound && !startsFunction && !aheadPathWord ts then expected boundTypeStarts
  if startsFunction then copyFunctionType g
  else if aheadPathWord ts || aheadColons ts || aheadSign "<" ts then
    copyPathType g isBound allowsPlus
  else if aheadGroup .parenthesis ts then copyParenthesizedType g allowsPlus
  else if aheadOneOf ["dyn", "impl"] ts then copyBoundType g allowsPlus
  else if aheadGroup .bracket ts then copyArrayType g
  else if aheadSign "*" ts || aheadSign "&" ts then copyReferenceType g
  else if aheadSign "!" ts || aheadWord "_" ts then do
    copyTokens 1
    return .other
  else if aheadLifetime ts then do
    copyObjectBounds g true
    return .bounds false
  else expected typeStarts

end Grammar

end Criteria.Derive
