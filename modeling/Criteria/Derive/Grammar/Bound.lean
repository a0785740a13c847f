import Criteria.Derive.Grammar.Path

/-!
# Bounds and generic parameters in the grammar

A bound is a lifetime, a trait or a list of captured parameters. A trait may take
arguments in parentheses, in front of which a pair of colons is read but not
written. A colon behind a parameter is not written if no bound follows it.
-/

namespace Criteria.Derive

/-- A generic parameter: how it is declared, its default behind an equality sign,
and the name under which it is used. -/
structure Parameter where
  declared : List Token
  fallback : List Token
  used : List Token
  isLifetime : Bool
  /-- A comma follows. -/
  hasComma : Bool

namespace Grammar

open Copier

/-- Copies a result type behind an arrow, if there is one. -/
def copyResult (g : Grammar) (allowsPlus : Bool) : Copier Unit := do
  if (← copySign? "->") then
    let _ ← g.type allowsPlus

/-- Copies bounds behind a colon, if there is one, up to where `isEnd` holds. -/
def copyColonBounds (isEnd : List Token → Bool) (bound : Copier Unit) : Copier Unit := do
  if aheadSign ":" (← ahead) then do
    skipSign ":"
    let (_, written) ← captured <| loop do
      if isEnd (← ahead) then return false
      bound
      copySign? "+"
    write (if written.isEmpty then [] else .sign ':' false :: written)

/-- The bounds of a parameter end here. -/
def endsParameter (ts : List Token) : Bool :=
  ts.isEmpty || aheadSign "," ts || aheadSign ">" ts

def readLifetimeParameter (attributes : List Token) (name : Token) : Copier Parameter := do
  let (_, declared) ← captured do
    copyLifetime
    copyColonBounds endsParameter copyLifetime
  return ⟨attributes ++ declared, [], [name], true, false⟩

def readTypeParameter (g : Grammar) (attributes : List Token) : Copier Parameter := do
  let (w, declared) ← captured do
    let w ← copyName
    copyColonBounds (fun ts => endsParameter ts || aheadSign "=" ts) do
      let _ ← g.bound parameterBounds
    return w
  let (_, fallback) ← captured do
    if (← copySign? "=") then
      let _ ← g.type true
  return ⟨attributes ++ declared, fallback, [.word w], false, false⟩

def readConstantParameter (g : Grammar) (attributes : List Token) : Copier Parameter := do
  let (w, declared) ← captured do
    copyWord "const"
    let w ← copyName
    copySign ":"
    let _ ← g.type true
    return w
  let (_, fallback) ← captured do
    if (← copySign? "=") then copyConstant g
  return ⟨attributes ++ declared, fallback, [.word w], false, false⟩

/-- Reads a generic parameter. What else was expected is said by `kinds`; an
underscore may be a parameter behind a name alone. -/
def readParameter (g : Grammar) (kinds : String) (allowsUnderscore : Bool) :
    Copier Parameter := do
  let (_, attributes) ← captured (copyAttributes g)
  match (← ahead) with
  | .lifetime name :: _ => readLifetimeParameter attributes (.lifetime name)
  | .word w :: _ =>
      if w.isName then readTypeParameter g attributes
      else if w.is "const" then readConstantParameter g attributes
      else if allowsUnderscore && w.is "_" then do
        skipTokens 1
        return ⟨attributes ++ [.word w], [], [.word w], false, false⟩
      else expected kinds
  | _ => expected kinds

/-- Copies the lifetimes that a bound is for all of. -/
def copyBinder (g : Grammar) : Copier Unit := do
  copyWord "for"
  copySign "<"
  copyParts (aheadSign ">") do
    let p ← readParameter g ("one of: identifier, lifetime, " ++ ticked "const") false
    write (p.declared ++ p.fallback)
  copySign ">"

/-- Copies the lifetimes that something is for all of, if there are any, and
tells whether there are. -/
def copyBinder? (g : Grammar) : Copier Bool := do
  if aheadWord "for" (← ahead) then do
    copyBinder g
    return true
  else return false

/-- Reads generic parameters up to the closing bracket, in at most `fuel` rounds. -/
def readParametersUpTo (g : Grammar) : Nat → Copier (List Parameter)
  | 0 => return []
  | fuel + 1 => do
      if aheadSign ">" (← ahead) then return []
      let p ← readParameter g ("one of: lifetime, identifier, " ++ ticked "const") true
      if aheadSign ">" (← ahead) then return [p]
      skipSign ","
      let more ← readParametersUpTo g fuel
      return { p with hasComma := true } :: more

/-- Reads the generic parameters behind a name, if there are any. -/
def readParameters (g : Grammar) : Copier (List Parameter) := do
  if aheadSign "<" (← ahead) then do
    skipSign "<"
    let ps ← readParametersUpTo g ((← ahead).length + 1)
    skipSign ">"
    return ps
  else return []

/-- Copies a captured parameter and tells whether it is a lifetime. -/
def copyCaptured : Copier Bool := do
  let ts ← ahead
  if aheadLifetime ts || aheadName ts || aheadWord "Self" ts then do
    copyTokens 1
    return aheadLifetime ts
  else expected ("one of: lifetime, identifier, " ++ ticked ">")

def copyCapture : Copier Unit := do
  copyWord "use"
  let comma : Copier Unit := do
    if aheadSign "," (← ahead) then skipTokens 1
    else expected (ticked "," ++ " or " ++ ticked ">")
  copyAngles comma copyCaptured

/-- Copies arguments in parentheses and a result type. -/
def copyCall (g : Grammar) : Copier Unit := do
  copyGroup .parenthesis <| copyAll do
    let _ ← g.type true
  copyResult g false

/-- Reads the mark of a constant trait, and tells whether there is one. -/
def copyConstantMark (isAllowed : Bool) : Copier Bool := do
  if aheadGroup .bracket (← ahead) then do
    copyGroup .bracket (copyWord "const")
    if isAllowed then return true else throw (.constantNotAllowed true)
  else if (← copyWord? "const") then
    if isAllowed then return true else throw (.constantNotAllowed false)
  else return false

/-- Copies a trait, without parentheses around it, and tells whether it is marked
as constant. A mark for an optional trait is written in front of the lifetimes, and
empty arguments give way to those in parentheses. -/
def copyTrait (g : Grammar) (allowsConstant : Bool) : Copier Bool := do
  let isBound ← copyBinder? g
  let isConstant ← copyConstantMark allowsConstant
  let isOptional ← copySign? "?"
  let isBound ← if isOptional && !isBound then copyBinder? g else pure isBound
  let p ← copyPath g false
  let ts ← ahead
  let hasColons := aheadColons ts && aheadGroup .parenthesis (ts.drop 2)
  if p.lastArguments ≠ .present && (hasColons || aheadGroup .parenthesis ts) then do
    if p.lastArguments = .empty then eraseEmptyArguments
    if hasColons then skipSign "::"
    copyCall g
  if isBound && isOptional then throw .boundLifetimesNotAllowed
  return isConstant

/-- Copies a bound. A constant one is written as it is read. -/
def copyBound (g : Grammar) (rules : BoundRules) : Copier BoundForm := do
  let ts ← ahead
  if aheadLifetime ts then do
    copyLifetime
    return .lifetime
  else if aheadWord "use" ts then do
    copyCapture
    if rules.allowsCapture then return .capture else throw .captureNotAllowed
  else do
    let before ← get
    let isConstant ←
      if aheadGroup .parenthesis ts then copyGroup .parenthesis (copyTrait g rules.allowsConstant)
      else copyTrait g rules.allowsConstant
    if isConstant then do
      let rest ← ahead
      modify fun s => { s with written := before.written }
      write (ts.take (ts.length - rest.length))
    return .trait

/-- Something that a bound may start with is ahead. -/
def aheadBound (ts : List Token) : Bool :=
  aheadAnyWord ts || aheadColons ts || aheadSign "?" ts || aheadLifetime ts ||
    aheadGroup .parenthesis ts

/-- Copies bounds with plus signs between them, in at most `fuel` rounds. -/
def copyBoundList (g : Grammar) (allowsPlus : Bool) (rules : BoundRules) :
    Nat → Copier (List BoundForm)
  | 0 => return []
  | fuel + 1 => do
      let b ← copyBound g rules
      if !(allowsPlus && (← copySign? "+")) then return [b]
      let ts ← ahead
      if aheadBound ts || (rules.allowsConstant && aheadGroup .bracket ts) then do
        let more ← copyBoundList g allowsPlus rules fuel
        return b :: more
      else return [b]

def copyBounds (g : Grammar) (allowsPlus : Bool) (rules : BoundRules) :
    Copier (List BoundForm) := do
  copyBoundList g allowsPlus rules (← ahead).length.succ

/-- Conditions end here. -/
def endsConditions (ts : List Token) : Bool :=
  ts.isEmpty || aheadGroup .brace ts || aheadSign "," ts || aheadSign ";" ts ||
    aheadColon ts || aheadSign "=" ts

/-- Copies a condition on parameters. The colon stays, even without bounds. -/
def copyCondition (g : Grammar) : Copier Unit := do
  let ts ← ahead
  if aheadLifetime ts && aheadSign ":" (ts.drop 1) then do
    copyLifetime
    copySign ":"
    loop do
      if endsConditions (← ahead) || aheadSign ":" (← ahead) then return false
      copyLifetime
      copySign? "+"
  else do
    let _ ← copyBinder? g
    let _ ← g.type true
    copySign ":"
    copyBoundsUpTo g endsConditions parameterBounds

/-- Parameters in angle brackets follow, rather than a type. -/
def opensParameters (ts : List Token) : Bool :=
  let second := ts.drop 1
  let third := ts.drop 2
  aheadSign "<" ts &&
    (aheadSign ">" second || aheadSign "#" second ||
      ((aheadLifetime second || aheadName second) &&
        (aheadSign ">" third || aheadSign "," third || aheadColon third || aheadSign "=" third)) ||
      aheadWord "const" second)

/-- Copies the conditions behind the word for them, in at most `fuel` rounds, and
tells whether a comma, which is not written, is behind the last. -/
def copyConditionsUpTo (g : Grammar) : Nat → Copier Bool
  | 0 => return false
  | fuel + 1 => do
      if endsConditions (← ahead) then return false
      copyCondition g
      if aheadSign "," (← ahead) then do
        skipSign ","
        if endsConditions (← ahead) then return true
        write [.sign ',' false]
        copyConditionsUpTo g fuel
      else return false

/-- Reads the conditions on parameters, if there are any, without the comma that
may be behind the last, and tells whether it is. -/
def readConditions (g : Grammar) : Copier (List Token × Bool) := do
  if aheadWord "where" (← ahead) then do
    skipTokens 1
    if opensParameters (← ahead) then throw .parametersInConditions
    let (hasComma, conditions) ← captured (copyConditionsUpTo g (← ahead).length.succ)
    return (conditions, hasComma)
  else return ([], false)

end Grammar

end Criteria.Derive
