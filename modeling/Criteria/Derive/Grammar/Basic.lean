import Criteria.Derive.Copier

/-!
# Parts of the grammar

Types, bounds, expressions, patterns, blocks and items hold one another. Each is
copied by a function of the copiers for the parts inside of it, so that one
function can be understood without the others; a copier for all of them comes
from going down a bounded number of levels.

What a part turned out to be is told as far as what stands around it depends on
it.
-/

namespace Criteria.Derive

/-- What a type turned out to be. -/
inductive TypeForm where
  /-- A path without a type of its own in front: whether it starts with colons,
  the number of its segments, and the word of the last. -/
  | path (isRooted : Bool) (segments : Nat) (last : Word)
  /-- A path behind a type in angle brackets. -/
  | member (last : Word)
  /-- Bounds without a word in front; a lone one may be put in parentheses. -/
  | bounds (isLone : Bool)
  | other
deriving DecidableEq, Repr

/-- The type is written as an optional one: a path whose last segment is
`Option`. -/
def TypeForm.isOptional : TypeForm → Bool
  | .path _ _ last => last.is "Option"
  | .member last => last.is "Option"
  | .bounds _ | .other => false

/-- What a bound turned out to be. -/
inductive BoundForm where
  | trait
  | lifetime
  | capture
deriving DecidableEq, Repr

/-- What bounds may be where they stand. -/
structure BoundRules where
  allowsCapture : Bool
  allowsConstant : Bool
deriving DecidableEq, Repr

/-- What an expression turned out to be. -/
inductive ExpressionForm where
  /-- A block, or a statement that ends with one. -/
  | block
  /-- A macro call; the delimiters are those of its arguments. -/
  | call (arguments : Delimiter)
  | range
  | comparison
  | other
deriving DecidableEq, Repr

/-- What a pattern turned out to be. -/
inductive PatternForm where
  /-- A range without one of its ends. -/
  | openRange
  /-- The dots for the rest. -/
  | rest
  | other
deriving DecidableEq, Repr

/-- How tight an operator binds, the loosest first. -/
inductive Precedence where
  | jump
  | assign
  | range
  | or
  | and
  | binding
  | compare
  | bitOr
  | bitXor
  | bitAnd
  | shift
  | sum
  | product
  | cast
deriving DecidableEq, Repr

/-- Place of the precedence among all. -/
def Precedence.rank : Precedence → Nat
  | jump => 0
  | assign => 1
  | range => 2
  | or => 3
  | and => 4
  | binding => 5
  | compare => 6
  | bitOr => 7
  | bitXor => 8
  | bitAnd => 9
  | shift => 10
  | sum => 11
  | product => 12
  | cast => 13

/-- Copiers for the parts inside of a part. -/
structure Grammar where
  /-- A type, which may or may not go on behind a plus sign. -/
  type : (allowsPlus : Bool) → Copier TypeForm
  bound : BoundRules → Copier BoundForm
  /-- An expression, whose paths may or may not have fields in braces. -/
  expression : (allowsFields : Bool) → Copier ExpressionForm
  /-- An expression without operators between operands. -/
  operand : (allowsFields : Bool) → Copier ExpressionForm
  /-- The operators and operands behind a first operand, as far as they bind at
  least as tight as given. -/
  operators : (allowsFields : Bool) → Precedence → ExpressionForm → Copier ExpressionForm
  /-- An expression that ends behind its block, if it is one with a block. -/
  statementExpression : Copier ExpressionForm
  pattern : Copier PatternForm
  /-- A block; attributes of its own may stand inside. -/
  block : (allowsAttributes : Bool) → Copier Unit
  /-- An item behind its attributes. -/
  item : Copier Unit

/-- No part at all. -/
def Grammar.empty : Grammar where
  type _ := throw .unexpectedEnd
  bound _ := throw .unexpectedEnd
  expression _ := throw .unexpectedEnd
  operand _ := throw .unexpectedEnd
  operators _ _ _ := throw .unexpectedEnd
  statementExpression := throw .unexpectedEnd
  pattern := throw .unexpectedEnd
  block _ := throw .unexpectedEnd
  item := throw .unexpectedEnd

end Criteria.Derive
