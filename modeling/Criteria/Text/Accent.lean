import Criteria.Unicode.Decomposition
import Criteria.Unicode.Mark

/-!
# Text without accents

A text loses its accents by canonical decomposition and removal of the
combining marks. What is left is composed again. Without marks only two kinds
of neighbours compose: the letters of a Hangul syllable and the vowel signs of
the Kirat Rai script, so the composition of the whole text is one pass over
adjacent characters.
-/

namespace Criteria.Text

open Criteria.Unicode

/-- Adjacent vowel signs that compose, with their composite. -/
def vowelSignPairs : List ((Nat × Nat) × Nat) :=
  [((0x16D67, 0x16D67), 0x16D68), ((0x16D63, 0x16D67), 0x16D69), ((0x16D69, 0x16D67), 0x16D6A)]

/-- The Hangul syllable made of two adjacent parts: a leading consonant and a
vowel, or a syllable without trailing consonant and that consonant. -/
def syllable? (a b : Nat) : Option Nat :=
  if leadBase ≤ a ∧ a < leadBase + leadCount ∧ vowelBase ≤ b ∧ b < vowelBase + vowelCount then
    some (hangulBase + ((a - leadBase) * vowelCount + (b - vowelBase)) * tailCount)
  else if hangulBase ≤ a ∧ a < hangulBase + leadCount * vowelCount * tailCount ∧
      (a - hangulBase) % tailCount = 0 ∧ tailBase < b ∧ b < tailBase + tailCount then
    some (a + (b - tailBase))
  else none

/-- The composite of two adjacent unmarked characters. -/
def composite? (a b : Char) : Option Char :=
  ((syllable? a.toNat b.toNat).or (vowelSignPairs.lookup (a.toNat, b.toNat))).map Char.ofNat

/-- Composes adjacent characters from left to right, `last` being the character
that the next one may still join. -/
def composeFrom (last : Char) : List Char → List Char
  | [] => [last]
  | c :: rest =>
      match composite? last c with
      | some d => composeFrom d rest
      | none => last :: composeFrom c rest

/-- Composes adjacent unmarked characters. -/
def compose : List Char → List Char
  | [] => []
  | c :: rest => composeFrom c rest

/-- The text with its combining marks removed. -/
def stripMarks (s : String) : String :=
  String.ofList (compose ((s.toList.flatMap decompose).filter fun c => !isMark c))

@[simp] theorem compose_nil : compose [] = [] := rfl

@[simp] theorem compose_singleton (c : Char) : compose [c] = [c] := rfl

end Criteria.Text
