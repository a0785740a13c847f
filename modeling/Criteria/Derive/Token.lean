import Criteria.Unicode.WhiteSpace

/-!
# Tokens of declarations

The text of a declaration is a sequence of token trees: words, signs, lifetimes,
literals, and groups of tokens between matching delimiters. A sign knows whether
the next sign follows it without a gap, as the two colons of a path do. A raw
lifetime has the mark `r#` in its name.
-/

namespace Criteria.Derive

/-- An identifier or keyword. A raw one is written behind `r#` and is never a
keyword. -/
structure Word where
  text : String
  isRaw : Bool := false
deriving DecidableEq, Repr

/-- The word as it is written. -/
def Word.written (w : Word) : String := if w.isRaw then "r#" ++ w.text else w.text

/-- The word is the given one, written plainly. -/
def Word.is (w : Word) (text : String) : Bool := !w.isRaw && w.text == text

/-- Matching delimiters. -/
inductive Delimiter where
  | parenthesis
  | bracket
  | brace
deriving DecidableEq, Repr

namespace Delimiter

def opening : Delimiter → Char
  | parenthesis => '('
  | bracket => '['
  | brace => '\x7b'

def closing : Delimiter → Char
  | parenthesis => ')'
  | bracket => ']'
  | brace => '\x7d'

/-- How a missing pair is called. -/
def plural : Delimiter → String
  | parenthesis => "parentheses"
  | bracket => "square brackets"
  | brace => "curly braces"

/-- The delimiters that a character opens. -/
def ofOpening? (c : Char) : Option Delimiter :=
  [parenthesis, bracket, brace].find? (·.opening == c)

/-- The delimiters that a character closes. -/
def ofClosing? (c : Char) : Option Delimiter :=
  [parenthesis, bracket, brace].find? (·.closing == c)

end Delimiter

/-- What a literal stands for, as far as it matters. -/
inductive LiteralKind where
  | text (s : String)
  | whole
  | fraction
  | other
deriving DecidableEq, Repr

/-- A literal as it is written, and what it stands for. -/
structure Literal where
  written : String
  kind : LiteralKind
deriving DecidableEq, Repr

/-- The literal is a number. -/
def Literal.isNumber (l : Literal) : Bool :=
  match l.kind with
  | .whole | .fraction => true
  | .text _ | .other => false

/-- A token tree. -/
inductive Token where
  | word (w : Word)
  | sign (c : Char) (isJoint : Bool)
  | lifetime (name : String)
  | literal (l : Literal)
  | group (d : Delimiter) (content : List Token)

mutual

/-- The token without gaps. -/
def Token.written : Token → String
  | .word w => w.written
  | .sign c _ => String.singleton c
  | .lifetime name => "'" ++ name
  | .literal l => l.written
  | .group d content =>
      String.singleton d.opening ++ writtenAll content ++ String.singleton d.closing

/-- The tokens without gaps. -/
def writtenAll : List Token → String
  | [] => ""
  | t :: ts => t.written ++ writtenAll ts

end

/-- The tokens without any white space, even inside literals. -/
def compactText (ts : List Token) : String :=
  String.ofList ((writtenAll ts).toList.filter fun c => !Unicode.isWhiteSpace c)

/-- The token is the given sign. -/
def Token.isSign (c : Char) : Token → Bool
  | sign d _ => d == c
  | _ => false

/-- Number of tokens, those inside of groups included. -/
def tokenCount : List Token → Nat
  | [] => 0
  | .group _ content :: rest => tokenCount content + tokenCount rest + 1
  | _ :: rest => tokenCount rest + 1

/-- Words that are never names, unless they are written raw. -/
def keywords : List String :=
  ["_", "abstract", "as", "async", "await", "become", "box", "break", "const", "continue",
   "crate", "do", "dyn", "else", "enum", "extern", "false", "final", "fn", "for", "if", "impl",
   "in", "let", "loop", "macro", "match", "mod", "move", "mut", "override", "priv", "pub", "ref",
   "return", "Self", "self", "static", "struct", "super", "trait", "true", "try", "type",
   "typeof", "unsafe", "unsized", "use", "virtual", "where", "while", "yield"]

/-- The word may be a name. -/
def Word.isName (w : Word) : Bool := w.isRaw || !keywords.contains w.text

end Criteria.Derive
