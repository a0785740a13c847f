import Criteria.Derive.Grammar.Expression

/-!
# Blocks in the grammar

A block is a row of statements: bindings, items, macro calls and expressions. A
statement that does not end itself needs a semicolon, unless it is the last.
-/

namespace Criteria.Derive

namespace Grammar

open Copier

/-- Copies a binding behind its word. An expression that ends with a brace takes
no other branch. -/
def copyBindingStatement (g : Grammar) : Copier Unit := do
  let _ ← g.pattern
  if (← copySign? ":") then
    let _ ← g.type true
  if (← copySign? "=") then do
    let _ ← g.expression true
    let endsWithBrace := match (← get).written with
      | .group .brace _ :: _ => true
      | _ => false
    if !endsWithBrace && (← copyWord? "else") then g.block false
  copySign ";"

/-- An item follows that starts with a word for a kind of item. -/
def aheadItemWord (ts : List Token) : Bool :=
  let second := ts.drop 1
  aheadOneOf ["pub", "extern", "use", "fn", "mod", "type", "struct", "enum", "trait", "impl",
    "macro"] ts ||
    (aheadWord "crate" ts && !aheadColons second) ||
    (aheadWord "unsafe" ts && !aheadGroup .brace second) ||
    (aheadWord "async" ts && aheadOneOf ["unsafe", "extern", "fn"] second) ||
    (aheadWord "union" ts && aheadName second) ||
    (aheadWord "auto" ts && aheadWord "trait" second) ||
    (aheadWord "default" ts && aheadOneOf ["unsafe", "impl"] second)

/-- A constant or static item follows, rather than a closure or a block. -/
def aheadConstantItem (ts : List Token) : Bool :=
  let second := ts.drop 1
  (aheadWord "static" ts && (aheadWord "mut" second || aheadName second)) ||
    (aheadWord "const" ts &&
      !(aheadGroup .brace second || aheadOneOf ["static", "move"] second ||
        aheadSign "|" second ||
        (aheadWord "async" second && !aheadOneOf ["unsafe", "extern", "fn"] (ts.drop 2))))

/-- The tokens behind the path of a macro call, from its exclamation mark on. -/
def behindMacroPath? (ts : List Token) : Option (List Token) :=
  match behindPlainPath? (ts.length + 1) (if aheadColons ts then ts.drop 2 else ts) with
  | some rest => if aheadSign "!" rest then some rest else none
  | none => none

/-- A macro call in braces is a statement of its own, unless a member or a question
mark follows. -/
def isMacroStatement (rest : List Token) : Bool :=
  let third := rest.drop 2
  aheadGroup .brace (rest.drop 1) && !aheadDot third && !aheadSign "?" third

/-- Copies a statement and tells whether it needs a semicolon behind it, which it
does not have. -/
def copyStatement (g : Grammar) : Copier Bool := do
  let _ ← copyAttributes g
  let ts ← ahead
  let isItemMacro := match behindMacroPath? ts with
    | some rest => aheadName (rest.drop 1) || aheadWord "try" (rest.drop 1)
    | none => false
  match behindMacroPath? ts with
  | some rest =>
      if !isItemMacro && isMacroStatement rest then do
        copyTokens (ts.length - rest.length + 2)
        let _ ← copySign? ";"
        return false
  | none => pure ()
  if (← copyWord? "let") then do
    copyBindingStatement g
    return false
  else if aheadItemWord ts || aheadConstantItem ts || isItemMacro then do
    g.item
    return false
  else do
    let form ← g.statementExpression
    if (← copySign? ";") then return false
    else return !(endsItself form || form = .call .brace)

def copyStatements (g : Grammar) : Copier Unit :=
  loop do
    if (← atEnd) then return false
    if (← copySign? ";") then return true
    let needsSemicolon ← copyStatement g
    if needsSemicolon && !(← atEnd) then throw .semicolonMissing
    return true

/-- Copies a block; attributes of its own may stand inside. -/
def copyBlock (g : Grammar) (allowsAttributes : Bool) : Copier Unit :=
  copyGroup .brace do
    if allowsAttributes then copyInnerAttributes g
    copyStatements g

end Grammar

end Criteria.Derive
