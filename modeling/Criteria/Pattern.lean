import Criteria.Unicode.WhiteSpace

/-!
# Search patterns

In a pattern the wildcard stands for any run of characters, `_` for exactly one
character, and every other character for itself; there is no escape. Where the
wildcard is `_` itself, the first reading wins.

Text and pattern are scanned together by a `Cursor`. At a wildcard it leaves a
`Mark` and tries the empty run first. When the characters differ it goes back to
the latest mark, lets that wildcard swallow one character more, and goes on from
there. Marks before the latest need not be kept: a match that an earlier
wildcard could make by swallowing more can also be made by the latest one.
-/

namespace Criteria.Pattern

/-- A wildcard passed on the way, and the text position up to which it has
swallowed. -/
structure Mark where
  wildcard : Nat
  resume : Nat
deriving DecidableEq, Repr

/-- Positions in the text and in the pattern, with the latest mark. -/
structure Cursor where
  text : Nat
  pattern : Nat
  mark : Option Mark
deriving DecidableEq, Repr

inductive Step where
  | answer (matched : Bool)
  | next (cursor : Cursor)
deriving DecidableEq, Repr

def Cursor.start : Cursor := ⟨0, 0, none⟩

/-- Lets the marked wildcard swallow one character more. -/
def Cursor.retreat (c : Cursor) : Step :=
  match c.mark with
  | none => .answer false
  | some m => .next ⟨m.resume + 1, m.wildcard + 1, some ⟨m.wildcard, m.resume + 1⟩⟩

/-- What is left of the pattern from a position on, which must not lie beyond its
end. -/
def rest? (pattern : Array Char) (position : Nat) : Option (List Char) :=
  if position ≤ pattern.size then some (pattern.toList.drop position) else none

theorem rest?_of_le {pattern : Array Char} {position : Nat} (h : position ≤ pattern.size) :
    rest? pattern position = some (pattern.toList.drop position) :=
  if_pos h

/-- One step of the scan. At the end of the text only wildcards may be left. -/
def Cursor.step (wildcard : Char) (pattern text : Array Char) (c : Cursor) : Step :=
  match text[c.text]? with
  | none => .answer ((rest? pattern c.pattern).any (·.all (· == wildcard)))
  | some x =>
      match pattern[c.pattern]? with
      | none => c.retreat
      | some y =>
          if y = wildcard then .next ⟨c.text, c.pattern + 1, some ⟨c.pattern, c.text⟩⟩
          else if y = '_' ∨ y = x then .next ⟨c.text + 1, c.pattern + 1, c.mark⟩
          else c.retreat

/-- Runs the scan for at most `fuel` steps. -/
def scan (wildcard : Char) (pattern text : Array Char) : Nat → Cursor → Option Bool
  | 0, _ => none
  | fuel + 1, c =>
      match c.step wildcard pattern text with
      | .answer matched => some matched
      | .next c => scan wildcard pattern text fuel c

/-- More steps than any scan takes: every step moves the latest mark, its text
position or the pattern position forward, in this order of precedence. -/
def stepBound (pattern text : Array Char) : Nat :=
  (pattern.size + 2) * (text.size + 2) * (pattern.size + 2)

/-- The pattern matches the whole text. -/
def accepts (wildcard : Char) (pattern text : String) : Bool :=
  let p := pattern.toList.toArray
  let t := text.toList.toArray
  (scan wildcard p t (stepBound p t) .start).getD false

/-- Replaces every run of white space by one wildcard; `inBlank` tells that the
character before was white space. -/
def collapse (wildcard : Char) : Bool → List Char → List Char
  | _, [] => []
  | inBlank, c :: cs =>
      if Unicode.isWhiteSpace c then
        if inBlank then collapse wildcard true cs else wildcard :: collapse wildcard true cs
      else c :: collapse wildcard false cs

/-- The pattern that looks for the words of `query` in their order, anything
being allowed before, between and after them. -/
def ofQuery (wildcard : Char) (query : String) : String :=
  String.ofList (wildcard :: (collapse wildcard false query.toList ++ [wildcard]))

end Criteria.Pattern
