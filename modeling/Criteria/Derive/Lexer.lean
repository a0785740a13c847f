import Criteria.Derive.Literal
import Criteria.Text.Quoted

/-!
# Lexing declarations

The characters of a declaration are read into lexemes, and delimited lexemes
are then nested into token trees. Comments are gaps, except documentation
comments, which stand for the attribute that they abbreviate.

Every reader takes a lexeme from the left and gives the rest back. The number of
steps is bounded by the number of characters.
-/

namespace Criteria.Derive

/-- A token without nesting. -/
inductive Lexeme where
  | leaf (t : Token)
  | opening (d : Delimiter)
  | closing (d : Delimiter)

namespace Lexer

/-- A character between tokens. -/
def isGap (c : Char) : Bool :=
  Unicode.isWhiteSpace c || c == '\u200e' || c == '\u200f'

/-- Characters that are signs, the apostrophe of a lifetime included. -/
def signs : List Char :=
  ['~', '!', '@', '#', '$', '%', '^', '&', '*', '-', '=', '+', '|', ';', ':', ',', '<', '.', '>',
   '/', '?', '\x27']

/-- The text starts with a sign rather than with a comment. -/
def startsSign : List Char → Bool
  | '/' :: '/' :: _ => false
  | '/' :: '*' :: _ => false
  | c :: _ => signs.contains c
  | [] => false

def wordRest (cs : List Char) : String × List Char :=
  (String.ofList (cs.takeWhile continuesWord), cs.dropWhile continuesWord)

/-- The words that cannot be raw: the blank, and those at the head of a path. -/
def neverRaw : List String := ["_", "super", "self", "Self", "crate"]

/-- Reads a word, which is raw behind the mark `r#`. -/
def word? (cs : List Char) : Option (Word × List Char) :=
  let taken (isRaw : Bool) (cs : List Char) :=
    if startsWith startsWord cs then
      let (name, rest) := wordRest cs
      some (Word.mk name isRaw, rest)
    else none
  match cs with
  | 'r' :: '#' :: rest =>
      (taken true rest).filter fun (w, _) => !neverRaw.contains w.text
  | _ => taken false cs

/-- Reads a lifetime behind its apostrophe. A second apostrophe would make it a
character. -/
def lifetime? (cs : List Char) : Option (Token × List Char) :=
  match word? cs with
  | some (_, '\x27' :: _) => none
  | some (w, '#' :: rest) => if w.isRaw then some (.lifetime w.written, '#' :: rest) else none
  | some (w, rest) => some (.lifetime w.written, rest)
  | none => none

/-- Starts of quotations, which are no words even where the quotation is none. -/
def quotationStarts : List String :=
  ["r\x22", "r#\x22", "r##", "b\x22", "b\x27", "br\x22", "br#", "c\x22", "cr\x22", "cr#"]

def token? (cs : List Char) : Option (Token × List Char) :=
  (literal? cs).or <|
    match cs with
    | '\x27' :: rest => lifetime? rest
    | c :: rest =>
        if signs.contains c then some (.sign c (startsSign rest), rest)
        else if quotationStarts.any fun s => s.toList.isPrefixOf cs then none
        else (word? cs).map fun (w, rest) => (.word w, rest)
    | [] => none

/-- What is behind the end of a block comment, inner comments included; none if it
has no end. -/
def behindBlock? : Nat → List Char → Option (List Char)
  | 0, cs => some cs
  | _ + 1, [] => none
  | depth + 1, '*' :: '/' :: rest => behindBlock? depth rest
  | depth + 1, '/' :: '*' :: rest => behindBlock? (depth + 2) rest
  | depth + 1, _ :: rest => behindBlock? (depth + 1) rest

/-- The text of a documentation comment as a string literal. An apostrophe needs
no escape there; a NUL in front of an octal digit is written in full. -/
def documentationLiteral : List Char → List Char
  | [] => []
  | '\x00' :: c :: rest =>
      (if '0' ≤ c && c ≤ '7' then ['\\', 'x', '0', '0'] else ['\\', '0']) ++
        documentationLiteral (c :: rest)
  | c :: rest => Text.escapeChar '"' c ++ documentationLiteral rest

/-- The attribute that a documentation comment abbreviates. -/
def documentation (isInner : Bool) (text : List Char) : List Lexeme :=
  [.leaf (.sign '#' false)] ++ (if isInner then [.leaf (.sign '!' false)] else []) ++
    [.opening .bracket, .leaf (.word ⟨"doc", false⟩), .leaf (.sign '=' false),
     .leaf (.literal ⟨String.ofList (['"'] ++ documentationLiteral text ++ ['"']),
       .text (String.ofList text)⟩),
     .closing .bracket]

/-- Reads a documentation comment, in which lines end alike. -/
def documentation? (isInner : Bool) (comment : List Char × List Char) :
    Option (List Lexeme × List Char) :=
  if hasWholeLineEnds comment.1 then some (documentation isInner comment.1, comment.2) else none

/-- Text of a line comment and what follows it. A carriage return belongs to the
end of the line. -/
def lineComment : List Char → List Char × List Char
  | [] => ([], [])
  | '\n' :: rest => ([], '\n' :: rest)
  | '\r' :: '\n' :: rest => ([], '\n' :: rest)
  | c :: rest =>
      let (text, rest) := lineComment rest
      (c :: text, rest)

/-- Text of a block comment behind its start, and what follows it. -/
def blockComment? (cs : List Char) : Option (List Char × List Char) :=
  (behindBlock? 1 cs).map fun rest => (cs.take (cs.length - rest.length - 2), rest)

/-- Reads the next lexemes: those of a documentation comment, or one; none for a
gap or a comment. -/
def step? (cs : List Char) : Option (List Lexeme × List Char) :=
  match cs with
  | [] => none
  | '/' :: '/' :: '!' :: rest => documentation? true (lineComment rest)
  | '/' :: '/' :: '/' :: '/' :: rest => some ([], (lineComment rest).2)
  | '/' :: '/' :: '/' :: rest => documentation? false (lineComment rest)
  | '/' :: '/' :: rest => some ([], (lineComment rest).2)
  | '/' :: '*' :: '*' :: '/' :: rest => some ([], rest)
  | '/' :: '*' :: '!' :: rest => (blockComment? rest).bind (documentation? true)
  | '/' :: '*' :: '*' :: '*' :: rest => (behindBlock? 1 ('*' :: rest)).map fun rest => ([], rest)
  | '/' :: '*' :: '*' :: rest => (blockComment? rest).bind (documentation? false)
  | '/' :: '*' :: rest => (behindBlock? 1 rest).map fun rest => ([], rest)
  | c :: rest =>
      if isGap c then some ([], rest)
      else match Delimiter.ofOpening? c, Delimiter.ofClosing? c with
        | some d, _ => some ([.opening d], rest)
        | none, some d => some ([.closing d], rest)
        | none, none => (token? cs).map fun (t, rest) => ([.leaf t], rest)

/-- Reads all lexemes, in at most `fuel` steps. -/
def lexemes? : Nat → List Char → Option (List Lexeme)
  | _, [] => some []
  | 0, _ => none
  | fuel + 1, cs => do
      let (found, rest) ← step? cs
      let more ← lexemes? fuel rest
      some (found ++ more)

/-- Nests lexemes. The stack holds, for every open group, its delimiters and the
reversed tokens in front of it; `read` holds the reversed tokens of the innermost
group. -/
def nest? : List (Delimiter × List Token) → List Token → List Lexeme → Option (List Token)
  | [], read, [] => some read.reverse
  | _ :: _, _, [] => none
  | stack, read, .leaf t :: rest => nest? stack (t :: read) rest
  | stack, read, .opening d :: rest => nest? ((d, read) :: stack) [] rest
  | [], _, .closing _ :: _ => none
  | (d, outer) :: stack, read, .closing e :: rest =>
      if d = e then nest? stack (.group d read.reverse :: outer) rest else none

end Lexer

/-- The characters of a text, less the byte order mark that may come first. -/
def Lexer.characters (text : String) : List Char :=
  match text.toList with
  | '\ufeff' :: rest => rest
  | cs => cs

/-- Reads the token trees of a text; there are none if a delimiter has no
partner or a character starts no token. -/
def tokens? (text : String) : Option (List Token) :=
  (Lexer.lexemes? text.length (Lexer.characters text)).bind (Lexer.nest? [] [])

end Criteria.Derive
