import Criteria.Derive.Grammar.Attribute

/-!
# Paths in the grammar

A path is a row of segments with pairs of colons between them. A segment may
have arguments in angle brackets, of which lifetimes are written first. In an
expression a segment needs a pair of colons in front of its arguments, since an
angle bracket compares there. Arguments in parentheses belong to bounds.
-/

namespace Criteria.Derive

/-- The arguments of a segment in angle brackets. -/
inductive SegmentArguments where
  | absent
  /-- Brackets with nothing between them. -/
  | empty
  | present
deriving DecidableEq, Repr

/-- What a path turned out to be. -/
structure PathForm where
  isRooted : Bool
  segments : Nat
  last : Word
  /-- The arguments of the last segment. -/
  lastArguments : SegmentArguments
  /-- Some segment has arguments. -/
  hasArguments : Bool
deriving DecidableEq, Repr

namespace Grammar

open Copier

/-- Copies the value of a constant argument: a literal, a name or a block. -/
def copyConstant (g : Grammar) : Copier Unit := do
  let ts ← ahead
  if aheadLiteral ts then copyLiteral
  else if aheadName ts then
    let _ ← copyName
  else if aheadGroup .brace ts then g.block true
  else throw (if ts.isEmpty then .unexpectedEnd else .unexpectedToken none)

/-- Copies bounds with plus signs between them, up to where `isEnd` holds. -/
def copyBoundsUpTo (g : Grammar) (isEnd : List Token → Bool) (rules : BoundRules) :
    Copier Unit :=
  loop do
    if isEnd (← ahead) then return false
    let _ ← g.bound rules
    copySign? "+"

/-- Rules for the bounds of a parameter. -/
def parameterBounds : BoundRules := ⟨false, true⟩

/-- Copies what follows a type that is a single name, if it binds that name: a
value behind an equality sign, or bounds behind a colon. -/
def copyBinding (g : Grammar) : Copier Unit := do
  if (← copySign? "=") then do
    let ts ← ahead
    if aheadLiteral ts || aheadGroup .brace ts then copyConstant g
    else
      let _ ← g.type true
  else if (← copySign? ":") then
    copyBoundsUpTo g (fun ts => aheadSign "," ts || aheadSign ">" ts) parameterBounds

/-- Copies an argument in angle brackets and tells whether it is a lifetime. -/
def copyArgument (g : Grammar) : Copier Bool := do
  let ts ← ahead
  if aheadLifetime ts && !aheadSign "+" (ts.drop 1) then do
    copyLifetime
    return true
  else if aheadLiteral ts || aheadGroup .brace ts then do
    copyConstant g
    return false
  else do
    match (← g.type true) with
    | .path false 1 _ => copyBinding g
    | _ => pure ()
    return false

def copyArguments (g : Grammar) : Copier Unit := copyAngles (skipSign ",") (copyArgument g)

/-- A bracket that opens arguments follows, where none can compare. -/
def opensArguments (ts : List Token) : Bool :=
  aheadSign "<" ts && !aheadSign "<=" ts && !aheadSign "<<=" ts

/-- Copies a segment and tells its word and its arguments. -/
def copySegment (g : Grammar) (inExpression : Bool) : Copier (Word × SegmentArguments) := do
  if aheadOneOf ["super", "self", "crate", "try"] (← ahead) then
    return (← copyAnyWord, .absent)
  let w ← if aheadWord "Self" (← ahead) then copyAnyWord else copyName
  let ts ← ahead
  let hasColons := aheadColons ts && aheadSign "<" (ts.drop 2)
  if hasColons || (!inExpression && opensArguments ts) then do
    let _ ← copySign? "::"
    let isEmpty := aheadSign ">" ((← ahead).drop 1)
    copyArguments g
    return (w, if isEmpty then .empty else .present)
  else return (w, .absent)

/-- Takes empty arguments back that were the last to be written, with the colons in
front of them. -/
def eraseEmptyArguments : Copier Unit :=
  modify fun s => { s with written := (s.written.drop 2).dropWhile (Token.isSign ':') }

/-- Copies further segments, in at most `fuel` rounds. Where parentheses may
follow the colons, these belong to what is outside of the path. -/
def copySegments (g : Grammar) (inExpression mayCall : Bool) : Nat → PathForm → Copier PathForm
  | 0, p => return p
  | fuel + 1, p => do
      let ts ← ahead
      if aheadColons ts && !(mayCall && aheadGroup .parenthesis (ts.drop 2)) then do
        copySign "::"
        let (w, arguments) ← copySegment g inExpression
        copySegments g inExpression mayCall fuel
          ⟨p.isRooted, p.segments + 1, w, arguments, p.hasArguments || arguments ≠ .absent⟩
      else return p

def copyPath (g : Grammar) (inExpression : Bool) : Copier PathForm := do
  let isRooted ← copySign? "::"
  let (w, arguments) ← copySegment g inExpression
  copySegments g inExpression true (← ahead).length.succ
    ⟨isRooted, 1, w, arguments, arguments ≠ .absent⟩

/-- Copies a type in angle brackets, maybe with a path to one of its traits, and
the path behind it. -/
def copyMemberPath (g : Grammar) (inExpression : Bool) : Copier PathForm := do
  copySign "<"
  let _ ← g.type true
  if (← copyWord? "as") then
    let _ ← copyPath g false
  copySign ">"
  copySign "::"
  let (w, arguments) ← copySegment g inExpression
  copySegments g inExpression false (← ahead).length.succ
    ⟨false, 1, w, arguments, arguments ≠ .absent⟩

/-- Copies a path that may have a type in front, and tells whether it has. -/
def copyAnyPath (g : Grammar) (inExpression : Bool) : Copier (PathForm × Bool) := do
  if aheadSign "<" (← ahead) then
    return (← copyMemberPath g inExpression, true)
  else return (← copyPath g inExpression, false)

/-- Copies the arguments of a macro behind a path, if an exclamation mark calls
for them, and gives their delimiters. -/
def copyMacroCall? (p : PathForm) (isMember : Bool) : Copier (Option Delimiter) := do
  let ts ← ahead
  if !isMember && !p.hasArguments && aheadSign "!" ts && !aheadSign "!=" ts then do
    copyTokens 1
    return some (← copyTree)
  else return none

end Grammar

end Criteria.Derive
