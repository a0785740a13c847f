import Criteria.Unicode.Case

/-!
# Lower-case text

Every character takes its own lower-case form, with one exception that looks at
the neighbours: a capital sigma at the end of a word becomes the final sigma.
The characters already read are carried along in reverse, so that the nearest
neighbour on either side is the first of its list.
-/

namespace Criteria.Text

open Criteria.Unicode

/-- The first character that is not passed over is a letter with a case. -/
def meetsCased (cs : List Char) : Bool :=
  match cs.dropWhile isCaseIgnorable with
  | [] => false
  | c :: _ => isCased c

/-- The lower-case form of a capital sigma: final after a cased letter and
before none. -/
def lowerSigma (before after : List Char) : Char :=
  if meetsCased before && !meetsCased after then 'ς' else 'σ'

/-- Lower-case forms of `cs`, the reversed text `before` having been read. -/
def lowerFrom (before : List Char) : List Char → List Char
  | [] => []
  | c :: after =>
      (if c = 'Σ' then [lowerSigma before after] else lowerChar c) ++
        lowerFrom (c :: before) after

/-- The text in lower case. -/
def lowercase (s : String) : String := String.ofList (lowerFrom [] s.toList)

@[simp] theorem lowerFrom_nil (before : List Char) : lowerFrom before [] = [] := rfl

theorem lowerFrom_append (before s t : List Char) (h : ∀ c ∈ s, c ≠ 'Σ') :
    lowerFrom before (s ++ t) = s.flatMap lowerChar ++ lowerFrom (s.reverse ++ before) t := by
  induction s generalizing before with
  | nil => rfl
  | cons c s ih =>
      have hc : c ≠ 'Σ' := h c (by simp)
      have hs : ∀ d ∈ s, d ≠ 'Σ' := fun d hd => h d (by simp [hd])
      simp [lowerFrom, hc, ih (c :: before) hs]

end Criteria.Text
