import Criteria.Derive.Grammar.Bound
import Criteria.Derive.Grammar.Pattern

/-!
# Expressions in the grammar

An expression is a row of operands with operators between them, and an operand
an atom with calls, members and indices behind it. Operators bind by precedence;
comparisons are not chained, and a range ends a row of tighter operators.
-/

namespace Criteria.Derive

namespace Grammar

open Copier

/-- The operators between two operands, the longer ones first, except for the
plain equality sign. -/
def binaryOperators : List (String × Precedence) :=
  [("+=", .assign), ("-=", .assign), ("*=", .assign), ("/=", .assign), ("%=", .assign),
   ("^=", .assign), ("&=", .assign), ("|=", .assign), ("<<=", .assign), (">>=", .assign),
   ("&&", .and), ("||", .or), ("<<", .shift), (">>", .shift), ("==", .compare),
   ("<=", .compare), ("!=", .compare), (">=", .compare), ("+", .sum), ("-", .sum),
   ("*", .product), ("/", .product), ("%", .product), ("^", .bitXor), ("&", .bitAnd),
   ("|", .bitOr), ("<", .compare), (">", .compare)]

/-- The operator ahead. -/
def aheadBinary? (ts : List Token) : Option (String × Precedence) :=
  binaryOperators.find? fun p => aheadSign p.1 ts

/-- An equality sign that assigns is ahead. -/
def aheadAssignment (ts : List Token) : Bool := aheadSign "=" ts && !aheadSign "=>" ts

/-- A dot that is not the first of several is ahead. -/
def aheadDot (ts : List Token) : Bool := aheadSign "." ts && !aheadSign ".." ts

/-- How tight what is ahead binds to the operand in front of it. -/
def aheadPrecedence (ts : List Token) : Precedence :=
  match aheadBinary? ts with
  | some (_, p) => p
  | none =>
      if aheadAssignment ts then .assign
      else if aheadSign ".." ts then .range
      else if aheadWord "as" ts then .cast
      else .jump

/-- Copies the operand behind an operator, with the operators that bind tighter.
At most `fuel` of them follow one another. -/
def copyRightOperand (g : Grammar) (allowsFields : Bool) (p : Precedence) :
    Nat → ExpressionForm → Copier ExpressionForm
  | 0, form => return form
  | fuel + 1, form => do
      let ts ← ahead
      let next := aheadPrecedence ts
      if p.rank < next.rank || (next = p && p = .assign) then do
        let form ← g.operators allowsFields next form
        if (← ahead).length < ts.length then copyRightOperand g allowsFields p fuel form
        else return form
      else return form

/-- Copies the operand behind an operator of the given precedence. -/
def copyRight (g : Grammar) (allowsFields : Bool) (p : Precedence) : Copier Unit := do
  let form ← g.operand allowsFields
  let _ ← copyRightOperand g allowsFields p (← ahead).length.succ form

/-- The upper end of a range is left out in front of these signs. -/
def rangeEnds : List String :=
  [",", ";", "?", "=>", "=", "+", "/", "%", "^", ">", "<=", "!=", "-=", "*=", "&=", "|=", "<<="]

def copyRange (g : Grammar) (allowsFields : Bool) : Copier Unit := do
  let isIncluded ← copyDots false
  let ts ← ahead
  let isOpen := ts.isEmpty || rangeEnds.any (aheadSign · ts) || aheadDot ts ||
    aheadWord "as" ts || (!allowsFields && aheadGroup .brace ts)
  if isIncluded || !isOpen then copyRight g allowsFields .range

/-- What binds tighter than a cast, if it is ahead. -/
def aheadTighter? (ts : List Token) : Option String :=
  if aheadDot ts then
    if aheadWord "await" (ts.drop 1) then some (ticked ".await")
    else if aheadName (ts.drop 1) &&
        (aheadGroup .parenthesis (ts.drop 2) || aheadColons (ts.drop 2)) then
      some "a method call"
    else some "a field access"
  else if aheadSign "?" ts then some (ticked "?")
  else if aheadGroup .bracket ts then some "indexing"
  else if aheadGroup .parenthesis ts then some "a function call"
  else none

def copyCast (g : Grammar) : Copier Unit := do
  copyWord "as"
  let _ ← g.type false
  match aheadTighter? (← ahead) with
  | some what => throw (.castFollowedBy what)
  | none => pure ()

/-- Copies operators that bind at least as tight as `base`, and their operands,
in at most `fuel` rounds. -/
def copyOperatorsUpTo (g : Grammar) (allowsFields : Bool) (base : Precedence) :
    Nat → ExpressionForm → Copier ExpressionForm
  | 0, form => return form
  | fuel + 1, form => do
      if form = .range then return form
      let ts ← ahead
      match aheadBinary? ts with
      | some (sign, p) =>
          if p.rank < base.rank then return form
          if p = .compare && form = .comparison then throw .chainedComparison
          copySign sign
          copyRight g allowsFields p
          copyOperatorsUpTo g allowsFields base fuel
            (if p = .compare then .comparison else .other)
      | none =>
          if base.rank ≤ Precedence.assign.rank && aheadAssignment ts then do
            copySign "="
            copyRight g allowsFields .assign
            copyOperatorsUpTo g allowsFields base fuel .other
          else if base.rank ≤ Precedence.range.rank && aheadSign ".." ts then do
            copyRange g allowsFields
            return .range
          else if aheadWord "as" ts then do
            copyCast g
            copyOperatorsUpTo g allowsFields base fuel .other
          else return form

/-- Copies operators that bind at least as tight as `base`, and their operands. -/
def copyOperators (g : Grammar) (allowsFields : Bool) (base : Precedence)
    (form : ExpressionForm) : Copier ExpressionForm := do
  copyOperatorsUpTo g allowsFields base (← ahead).length.succ form

/-- Copies expressions with commas between them to the end. -/
def copyExpressions (g : Grammar) : Copier Unit := copyAll do
  let _ ← g.expression true

/-- Copies a member behind its dot: a word, or the place of an element. -/
def copyMember (g : Grammar) : Copier Unit := do
  match (← ahead) with
  | .literal l :: rest =>
      if l.kind = .fraction then do
        copyTokens 1
        if l.written.endsWith "." then
          match rest with
          | .literal _ :: _ => copyTokens 1
          | _ =>
              let _ ← copyName
      else if l.kind = .whole then copyTokens 1
      else expected "identifier or integer"
  | ts =>
      if (← copyWord? "await") then return ()
      if !aheadName ts then expected "identifier or integer"
      let _ ← copyName
      let rest ← ahead
      if aheadColons rest then do
        copySign "::"
        copyArguments g
        copyGroup .parenthesis (copyExpressions g)

/-- Copies calls, members and indices behind an operand, in at most `fuel`
rounds. -/
def copyTrailersUpTo (g : Grammar) : Nat → ExpressionForm → Copier ExpressionForm
  | 0, form => return form
  | fuel + 1, form => do
      let ts ← ahead
      if aheadGroup .parenthesis ts then do
        copyGroup .parenthesis (copyExpressions g)
        copyTrailersUpTo g fuel .other
      else if aheadDot ts && form != .range then do
        copySign "."
        copyMember g
        copyTrailersUpTo g fuel .other
      else if aheadGroup .bracket ts then do
        let _ ← copyGroup .bracket (g.expression true)
        copyTrailersUpTo g fuel .other
      else if aheadSign "?" ts && form != .range then do
        copySign "?"
        copyTrailersUpTo g fuel .other
      else return form

/-- Copies calls, members and indices behind an operand. -/
def copyTrailers (g : Grammar) (form : ExpressionForm) : Copier ExpressionForm := do
  copyTrailersUpTo g (← ahead).length.succ form

/-- Copies the fields of a structure to the end; behind dots, another one may
stand for the rest. -/
def copyFieldValues (g : Grammar) : Copier Unit :=
  loop do
    let ts ← ahead
    if ts.isEmpty then return false
    if (← copySign? "..") then do
      if !(← atEnd) then
        let _ ← g.expression true
      return false
    let _ ← copyAttributes g
    match (← ahead) with
    | .literal l :: _ =>
        if l.kind = .whole then do
          copyTokens 1
          copySign ":"
          let _ ← g.expression true
        else expected "identifier or integer"
    | ts => do
        if !aheadName ts then expected "identifier or integer"
        let _ ← copyName
        if (← copySign? ":") then
          let _ ← g.expression true
    if (← atEnd) then return false
    copySign ","
    return true

/-- Copies an expression that starts with a path. -/
def copyPathExpression (g : Grammar) (allowsFields : Bool) : Copier ExpressionForm := do
  let (p, isMember) ← copyAnyPath g true
  match (← copyMacroCall? p isMember) with
  | some d => return .call d
  | none =>
      if allowsFields && aheadGroup .brace (← ahead) then
        copyGroup .brace (copyFieldValues g)
      return .other

/-- Copies a tuple or an expression in parentheses. -/
def copyTuple (g : Grammar) : Copier ExpressionForm := do
  copyGroup .parenthesis (copyExpressions g)
  return .other

/-- Copies an array: its elements, or one and their number. -/
def copyArray (g : Grammar) : Copier ExpressionForm := do
  copyGroup .bracket do
    if (← atEnd) then return ()
    let _ ← g.expression true
    if (← copySign? ";") then
      let _ ← g.expression true
    else if aheadSign "," (← ahead) then do
      copySign ","
      copyExpressions g
    else if !(← atEnd) then expected (ticked "," ++ " or " ++ ticked ";")
  return .other

def copyClosureParameter (g : Grammar) : Copier Unit := do
  let _ ← copyAttributes g
  let _ ← g.pattern
  if (← copySign? ":") then
    let _ ← g.type true

def copyClosure (g : Grammar) (allowsFields : Bool) : Copier ExpressionForm := do
  let _ ← copyBinder? g
  for word in ["const", "static", "async", "move"] do
    let _ ← copyWord? word
  copySign "|"
  copyParts (aheadSign "|") (copyClosureParameter g)
  copySign "|"
  if (← copySign? "->") then do
    let _ ← g.type true
    g.block false
  else
    let _ ← g.expression allowsFields
  return .other

def aheadClosure (ts : List Token) : Bool :=
  let second := ts.drop 1
  let third := ts.drop 2
  aheadSign "|" ts || aheadOneOf ["move", "static"] ts ||
    (aheadWord "for" ts && aheadSign "<" second && (aheadLifetime third || aheadSign ">" third)) ||
    (aheadWord "const" ts && !aheadGroup .brace second) ||
    (aheadWord "async" ts && (aheadSign "|" second || aheadWord "move" second))

/-- Something that an expression may start with is ahead. -/
def aheadExpression (ts : List Token) : Bool :=
  (aheadAnyWord ts && !aheadWord "as" ts) || aheadGroup .parenthesis ts ||
    aheadGroup .bracket ts || aheadGroup .brace ts || aheadLiteral ts ||
    (aheadSign "!" ts && !aheadSign "!=" ts) ||
    (aheadSign "-" ts && !aheadSign "-=" ts && !aheadSign "->" ts) ||
    (aheadSign "*" ts && !aheadSign "*=" ts) || (aheadSign "|" ts && !aheadSign "|=" ts) ||
    (aheadSign "&" ts && !aheadSign "&=" ts) || aheadSign ".." ts || opensArguments ts ||
    aheadColons ts || aheadLifetime ts || aheadSign "#" ts

def copyOptional (g : Grammar) (allowsFields : Bool) : Copier ExpressionForm := do
  let ts ← ahead
  if aheadExpression ts && (allowsFields || !aheadGroup .brace ts) then
    let _ ← g.expression true
  return .other

def copyBreak (g : Grammar) (allowsFields : Bool) : Copier ExpressionForm := do
  let ts ← ahead
  if aheadLifetime ts && aheadSign ":" (ts.drop 1) then do
    let _ ← g.expression true
    throw .labelInBreak
  let _ ← copyIf aheadLifetime 1
  copyOptional g allowsFields

/-- Copies the condition of a statement and the block behind it. -/
def copyConditional (g : Grammar) (allowsAttributes : Bool) : Copier Unit := do
  let _ ← g.expression false
  g.block allowsAttributes

/-- Copies the branches of an `if` behind its word, in at most `fuel` rounds. -/
def copyBranches (g : Grammar) : Nat → Copier Unit
  | 0 => return ()
  | fuel + 1 => do
      copyConditional g false
      if (← copyWord? "else") then
        if (← copyWord? "if") then copyBranches g fuel
        else if aheadGroup .brace (← ahead) then g.block false
        else expected (ticked "if" ++ " or curly braces")

/-- An expression of this form needs no comma or semicolon behind it. -/
def endsItself : ExpressionForm → Bool
  | .block => true
  | .call _ | .range | .comparison | .other => false

def copyArm (g : Grammar) : Copier Unit := do
  let _ ← copyAttributes g
  let _ ← copyAlternatives g
  if (← copyWord? "if") then
    let _ ← g.expression true
  copySign "=>"
  let form ← g.statementExpression
  if !endsItself form && !(← atEnd) then copySign ","
  else
    let _ ← copySign? ","

def copyMatch (g : Grammar) : Copier Unit := do
  let _ ← g.expression false
  copyGroup .brace do
    copyInnerAttributes g
    loop do
      if (← atEnd) then return false
      copyArm g
      return true

/-- Words that a block stands behind. -/
def blockWords : List String := ["loop", "unsafe", "const"]

/-- A statement that ends with a block follows. -/
def aheadBlockStatement (ts : List Token) : Bool :=
  let second := ts.drop 1
  aheadOneOf ["if", "while", "loop", "match", "unsafe"] ts || aheadGroup .brace ts ||
    (aheadWord "for" ts &&
      !(aheadSign "<" second && (aheadLifetime (ts.drop 2) || aheadSign ">" (ts.drop 2)))) ||
    (aheadOneOf ["try", "const"] ts && aheadGroup .brace second)

/-- Copies a statement that ends with a block, behind its label. -/
def copyBlockStatement (g : Grammar) : Copier ExpressionForm := do
  if (← copyWord? "if") then copyBranches g (← ahead).length.succ
  else if (← copyWord? "while") then copyConditional g true
  else if (← copyWord? "for") then do
    let _ ← copyAlternatives g
    copyWord "in"
    copyConditional g true
  else if (← copyWord? "match") then copyMatch g
  else if (← copyWord? "try") then g.block false
  else do
    let _ ← copyIf (aheadOneOf blockWords) 1
    g.block true
  return .block

def copyLabelled (g : Grammar) : Copier ExpressionForm := do
  copyLifetime
  copySign ":"
  let ts ← ahead
  if aheadOneOf ["while", "for", "loop"] ts || aheadGroup .brace ts then copyBlockStatement g
  else expected "loop or block expression"

/-- Copies what a binding condition consists of, behind its word. -/
def copyLet (g : Grammar) (allowsFields : Bool) : Copier ExpressionForm := do
  let _ ← copyAlternatives g
  copySign "="
  let form ← g.operand allowsFields
  let _ ← g.operators allowsFields .compare form
  return .other

/-- Copies a word that leaves a block or function, and what it takes along. -/
def copyLeaving (g : Grammar) (allowsFields : Bool) : Copier ExpressionForm := do
  if (← copyWord? "break") then copyBreak g allowsFields
  else if (← copyWord? "continue") then do
    let _ ← copyIf aheadLifetime 1
    return .other
  else if (← copyWord? "return") then copyOptional g true
  else if (← copyWord? "yield") then do
    let ts ← ahead
    if !ts.isEmpty && !aheadSign "," ts && !aheadSign ";" ts then
      let _ ← g.expression true
    return .other
  else verbatim do
    copyWord "become"
    let _ ← g.expression true
    return .other

/-- A path that an expression may start with is ahead. -/
def aheadPathExpression (ts : List Token) : Bool :=
  aheadPathWord ts || aheadColons ts || aheadSign "<" ts ||
    (aheadWord "try" ts && (aheadSign "!" (ts.drop 1) || aheadColons (ts.drop 1)))

/-- An asynchronous block follows. -/
def aheadAsyncBlock (ts : List Token) : Bool :=
  let second := ts.drop 1
  aheadWord "async" ts &&
    (aheadGroup .brace second || (aheadWord "move" second && aheadGroup .brace (ts.drop 2)))

/-- Copies a name that the compiler knows by itself, as it is read. -/
def copyBuiltin : Copier ExpressionForm := verbatim do
  copyTokens 2
  let _ ← copyName
  if aheadGroup .parenthesis (← ahead) then copyTokens 1
  else expected Delimiter.parenthesis.plural
  return .other

def copyAtom (g : Grammar) (allowsFields : Bool) : Copier ExpressionForm := do
  let ts ← ahead
  if aheadLiteral ts then do
    copyLiteral
    return .other
  else if aheadAsyncBlock ts then do
    copyTokens 1
    let _ ← copyWord? "move"
    g.block false
    return .other
  else if aheadWord "try" ts && aheadGroup .brace (ts.drop 1) then copyBlockStatement g
  else if aheadClosure ts then copyClosure g allowsFields
  else if aheadWord "builtin" ts && aheadSign "#" (ts.drop 1) then copyBuiltin
  else if aheadPathExpression ts then copyPathExpression g allowsFields
  else if aheadGroup .parenthesis ts then copyTuple g
  else if aheadGroup .bracket ts then copyArray g
  else if aheadOneOf ["break", "continue", "return", "become", "yield"] ts then
    copyLeaving g allowsFields
  else if (← copyWord? "let") then copyLet g allowsFields
  else if aheadBlockStatement ts then copyBlockStatement g
  else if aheadSign ".." ts then do
    copyRange g allowsFields
    return .range
  else if (← copyWord? "_") then return .other
  else if aheadLifetime ts then copyLabelled g
  else expected "an expression"

/-- Copies what stands between a reference's sign and its operand. -/
def copyReferenceMarks : Copier Unit := do
  let ts ← ahead
  if aheadWord "raw" ts && aheadOneOf ["mut", "const"] (ts.drop 1) then copyTokens 2
  else
    let _ ← copyWord? "mut"

/-- Copies an operand: an atom with what is behind it, or an operand with a sign
in front. -/
def copyOperand (g : Grammar) (allowsFields : Bool) : Copier ExpressionForm := do
  let hasAttributes ← copyAttributes g
  let ts ← ahead
  if (← copySign? "&") then do
    copyReferenceMarks
    let _ ← g.operand allowsFields
    return .other
  else if ["*", "!", "-"].any (aheadSign · ts) then do
    copyTokens 1
    let _ ← g.operand allowsFields
    return .other
  else do
    let form ← copyTrailers g (← copyAtom g allowsFields)
    if hasAttributes && form = .range then throw .attributeOnRange
    return form

def copyExpression (g : Grammar) (allowsFields : Bool) : Copier ExpressionForm := do
  copyOperators g allowsFields .jump (← copyOperand g allowsFields)

/-- Copies an expression that ends behind its block, if it is one with a block,
unless a member or a question mark follows. -/
def copyStatementExpression (g : Grammar) : Copier ExpressionForm := do
  let _ ← copyAttributes g
  let ts ← ahead
  if aheadBlockStatement ts || aheadLifetime ts then do
    let form ← if aheadLifetime ts then copyLabelled g else copyBlockStatement g
    if aheadDot (← ahead) || aheadSign "?" (← ahead) then
      copyOperators g true .jump (← copyTrailers g form)
    else return form
  else copyExpression g true

end Grammar

end Criteria.Derive
