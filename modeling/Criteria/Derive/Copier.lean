import Criteria.Derive.Error

/-!
# Copying tokens

A copier reads what a grammar admits from the left and writes it down again, so
that what is written can differ from what is read where a grammar has two
spellings for one thing. What is left over at the end of a group is no error at
once: it is noted, and reported if nothing else is wrong.

Loops take as many rounds as there are tokens ahead: every round takes one.
-/

namespace Criteria.Derive

/-- Where a copier stands: the tokens ahead of it, those written so far, the last
one first, and the delimiters of the first group that had tokens left over. -/
structure CopyState where
  ahead : List Token
  written : List Token := []
  leftover : Option Delimiter := none

/-- A reader that writes down what it reads. -/
abbrev Copier (α : Type) := StateT CopyState (Except DeriveError) α

namespace Copier

def ahead : Copier (List Token) := return (← get).ahead

/-- Nothing is ahead. -/
def atEnd : Copier Bool := return (← ahead).isEmpty

/-- Refuses what is ahead, which should have been something else. -/
def expected {α : Type} (what : String) : Copier α := do
  throw (.expected what (← atEnd))

def copyTokens (n : Nat) : Copier Unit :=
  modify fun s =>
    { s with ahead := s.ahead.drop n, written := (s.ahead.take n).reverse ++ s.written }

/-- Reads a number of tokens without writing them. -/
def skipTokens (n : Nat) : Copier Unit := modify fun s => { s with ahead := s.ahead.drop n }

def write (ts : List Token) : Copier Unit :=
  modify fun s => { s with written := ts.reverse ++ s.written }

/-- Copies what is ahead if it is of the given kind, and tells whether it was. -/
def copyIf (isKind : List Token → Bool) (n : Nat) : Copier Bool := do
  if isKind (← ahead) then
    copyTokens n
    return true
  else return false

def copySign? (s : String) : Copier Bool := copyIf (aheadSign s) s.length

def copyWord? (text : String) : Copier Bool := copyIf (aheadWord text) 1

/-- Skips a sign, which has to be there. A missing one is reported alike at the
end and elsewhere. -/
def skipSign (s : String) : Copier Unit := do
  if aheadSign s (← ahead) then skipTokens s.length
  else throw (.expected (ticked s) false)

/-- Copies a sign, which has to be there. -/
def copySign (s : String) : Copier Unit := do
  if !(← copySign? s) then throw (.expected (ticked s) false)

/-- Copies a word, which has to be there. -/
def copyWord (text : String) : Copier Unit := do
  if !(← copyWord? text) then expected (ticked text)

/-- Copies a word, whichever. -/
def copyAnyWord : Copier Word := do
  match (← ahead) with
  | .word w :: _ => do
      copyTokens 1
      return w
  | _ => expected "ident"

def copyName : Copier Word := do
  match (← ahead) with
  | .word w :: _ =>
      if w.isName then do
        copyTokens 1
        return w
      else throw (.keywordAsName w.text)
  | _ => expected "identifier"

def copyLifetime : Copier Unit := do
  if !(← copyIf aheadLifetime 1) then expected "lifetime"

def copyLiteral : Copier Unit := do
  let n := literalLength (← ahead)
  if n = 0 then expected "literal" else copyTokens n

/-- Copies a group as it is, in whichever delimiters. -/
def copyTree : Copier Delimiter := do
  match (← ahead) with
  | .group d _ :: _ => do
      copyTokens 1
      return d
  | _ => expected "delimiter"

/-- Copies a group in the given delimiters, its content by `inside`. -/
def copyGroup {α : Type} (d : Delimiter) (inside : Copier α) : Copier α := do
  match (← ahead) with
  | .group e content :: rest =>
      if d = e then do
        let outer ← get
        set { outer with ahead := content, written := [] }
        let a ← inside
        let inner ← get
        set (CopyState.mk rest (.group d inner.written.reverse :: outer.written)
          (inner.leftover.or (if inner.ahead.isEmpty then none else some d)))
        return a
      else expected d.plural
  | _ => expected d.plural

/-- Runs a copier and gives what it wrote instead of writing it. -/
def captured {α : Type} (c : Copier α) : Copier (α × List Token) := do
  let before := (← get).written
  modify fun s => { s with written := [] }
  let a ← c
  let now := (← get).written
  modify fun s => { s with written := before }
  return (a, now.reverse)

/-- Runs a copier for its effect on what is ahead, and writes what it read as it
was. -/
def verbatim {α : Type} (c : Copier α) : Copier α := do
  let before ← ahead
  let (a, _) ← captured c
  write (before.take (before.length - (← ahead).length))
  return a

/-- Repeats a round for as long as it asks for another, at most `fuel` times. -/
def repeatRounds (round : Copier Bool) : Nat → Copier Unit
  | 0 => return ()
  | fuel + 1 => do
      if (← round) then repeatRounds round fuel

/-- Repeats a round for as long as it asks for another. -/
def loop (round : Copier Bool) : Copier Unit := do
  repeatRounds round ((← ahead).length + 1)

/-- Copies parts with commas between them up to where `isEnd` holds; the last may
have a comma behind it. -/
def copyParts (isEnd : List Token → Bool) (part : Copier Unit) : Copier Unit :=
  loop do
    if isEnd (← ahead) then return false
    part
    if isEnd (← ahead) then return false
    copySign ","
    return true

/-- Copies parts with commas between them to the end. -/
def copyAll (part : Copier Unit) : Copier Unit := copyParts List.isEmpty part

/-- Reads parts with commas between them to the end, in at most `fuel` rounds. -/
def readParts {α : Type} (part : Copier α) : Nat → Copier (List α)
  | 0 => return []
  | fuel + 1 => do
      if (← atEnd) then return []
      let a ← part
      if (← atEnd) then return [a]
      copySign ","
      let more ← readParts part fuel
      return a :: more

/-- Reads parts with commas between them to the end. -/
def readAll {α : Type} (part : Copier α) : Copier (List α) := do
  readParts part ((← ahead).length + 1)

end Copier

/-- A part of a list in angle brackets: what was written of it, whether it is a
lifetime, and whether a comma follows. -/
structure AnglePart where
  written : List Token
  isLifetime : Bool
  hasComma : Bool

/-- The parts of a list in angle brackets, lifetimes first, each with the comma
that followed it. A comma is added where two parts meet without one. -/
def lifetimesFirst (parts : List AnglePart) : List Token :=
  let comma : Token := .sign ',' false
  let withComma (p : AnglePart) : List Token := p.written ++ if p.hasComma then [comma] else []
  let lifetimes := parts.filter (·.isLifetime)
  let others := parts.filter fun p => !p.isLifetime
  let lacksComma := match lifetimes.getLast? with
    | some p => !p.hasComma
    | none => false
  lifetimes.flatMap withComma ++ (if lacksComma && !others.isEmpty then [comma] else []) ++
    others.flatMap withComma

namespace Copier

/-- Reads the parts of a list in angle brackets with commas between them, in at
most `fuel` rounds. A part tells whether it is a lifetime. -/
def readAngleParts (comma : Copier Unit) (part : Copier Bool) : Nat → Copier (List AnglePart)
  | 0 => return []
  | fuel + 1 => do
      if aheadSign ">" (← ahead) then return []
      let (isLifetime, written) ← captured part
      if aheadSign ">" (← ahead) then return [⟨written, isLifetime, false⟩]
      comma
      let more ← readAngleParts comma part fuel
      return ⟨written, isLifetime, true⟩ :: more

/-- Copies a list in angle brackets, lifetimes first. -/
def copyAngles (comma : Copier Unit) (part : Copier Bool) : Copier Unit := do
  copySign "<"
  let parts ← readAngleParts comma part ((← ahead).length + 1)
  write (lifetimesFirst parts)
  copySign ">"

end Copier

end Criteria.Derive
