import Criteria.Derive.Grammar.Block
import Criteria.Derive.Grammar.Item
import Criteria.Derive.Grammar.Type

/-!
# Levels of the grammar

A level of the grammar copies parts whose own parts the level below copies. Going
down a level takes a token or enters a group, so as many levels as there are
tokens reach to the bottom of every part.
-/

namespace Criteria.Derive

namespace Grammar

/-- The grammar whose parts are made of parts of another one. -/
def above (g : Grammar) : Grammar where
  type := copyType g
  bound := copyBound g
  expression := copyExpression g
  operand := copyOperand g
  operators := copyOperators g
  statementExpression := copyStatementExpression g
  pattern := copyPattern g
  block := copyBlock g
  item := copyItem g

/-- The grammar of parts that go down at most `depth` levels. -/
def level : Nat → Grammar
  | 0 => empty
  | depth + 1 => (level depth).above

/-- The grammar for parts of the given tokens. A level may enter the one below
twice for one token, as an item behind its attributes does. -/
def ofTokens (ts : List Token) : Grammar := level (2 * tokenCount ts + 2)

@[simp] theorem level_succ (depth : Nat) : level (depth + 1) = (level depth).above := rfl

end Grammar

end Criteria.Derive
