import Criteria.Pattern
import Mathlib.Data.Prod.Lex

/-!
# Progress of a scan

A step of the scan answers or moves the cursor; `Cursor.Takes` lists what it can do.
Both positions of the cursor may move back, so neither of them measures a scan. What
every step moves forward is `Cursor.progress`: the latest mark, then the text
position up to which its wildcard has swallowed, then the position in the pattern, in
this order of precedence.

The cursor stays in range, and in range progress has a bound: counted as a number, the
rank of the cursor, it stays below `stepBound`.
-/

namespace Criteria.Pattern

namespace Cursor

/-- What a step can do. At the end of the text it answers. Otherwise it passes a
wildcard and leaves a mark, passes a character with the text, or goes back to the
latest mark, for want of which it refuses. -/
inductive Takes (wildcard : Char) (pattern text : Array Char) (c : Cursor) : Step → Prop
  | finish (ht : text[c.text]? = none) : Takes wildcard pattern text c
      (.answer ((rest? pattern c.pattern).any (·.all (· == wildcard))))
  | mark {x : Char} (ht : text[c.text]? = some x) (hp : pattern[c.pattern]? = some wildcard) :
      Takes wildcard pattern text c (.next ⟨c.text, c.pattern + 1, some ⟨c.pattern, c.text⟩⟩)
  | advance {x y : Char} (ht : text[c.text]? = some x) (hp : pattern[c.pattern]? = some y)
      (hy : y ≠ wildcard) (hxy : y = '_' ∨ y = x) :
      Takes wildcard pattern text c (.next ⟨c.text + 1, c.pattern + 1, c.mark⟩)
  | retreat {x : Char} {m : Mark} (ht : text[c.text]? = some x)
      (hp : ∀ y, pattern[c.pattern]? = some y → y ≠ wildcard ∧ ¬ (y = '_' ∨ y = x))
      (hm : c.mark = some m) : Takes wildcard pattern text c
      (.next ⟨m.resume + 1, m.wildcard + 1, some ⟨m.wildcard, m.resume + 1⟩⟩)
  | refuse {x : Char} (ht : text[c.text]? = some x)
      (hp : ∀ y, pattern[c.pattern]? = some y → y ≠ wildcard ∧ ¬ (y = '_' ∨ y = x))
      (hm : c.mark = none) : Takes wildcard pattern text c (.answer false)

variable {wildcard : Char} {pattern text : Array Char} {c c' : Cursor}

theorem takes_retreat {x : Char} (ht : text[c.text]? = some x)
    (hp : ∀ y, pattern[c.pattern]? = some y → y ≠ wildcard ∧ ¬ (y = '_' ∨ y = x)) :
    c.Takes wildcard pattern text c.retreat := by
  unfold Cursor.retreat
  cases hm : c.mark with
  | none => exact .refuse ht hp hm
  | some m => exact .retreat ht hp hm

theorem takes_step (wildcard : Char) (pattern text : Array Char) (c : Cursor) :
    c.Takes wildcard pattern text (c.step wildcard pattern text) := by
  unfold step
  cases ht : text[c.text]? with
  | none => exact .finish ht
  | some x =>
      cases hp : pattern[c.pattern]? with
      | none => exact takes_retreat ht (by simp [hp])
      | some y =>
          by_cases hy : y = wildcard
          · subst hy
            simp only [if_true]
            exact .mark ht hp
          · simp only [if_neg hy]
            by_cases hxy : y = '_' ∨ y = x
            · rw [if_pos hxy]
              exact .advance ht hp hy hxy
            · rw [if_neg hxy]
              exact takes_retreat ht (by simp_all)

theorem takes_of_step {s : Step} (h : c.step wildcard pattern text = s) :
    c.Takes wildcard pattern text s :=
  h ▸ takes_step wildcard pattern text c

/-- Positions within the text and the pattern; the mark lies behind the cursor. -/
structure InRange (pattern text : Array Char) (c : Cursor) : Prop where
  text_le : c.text ≤ text.size
  pattern_le : c.pattern ≤ pattern.size
  wildcard_lt : ∀ m ∈ c.mark, m.wildcard < c.pattern
  resume_le : ∀ m ∈ c.mark, m.resume ≤ c.text

theorem inRange_start : start.InRange pattern text :=
  ⟨Nat.zero_le _, Nat.zero_le _, nofun, nofun⟩

/-- No step leaves the range. -/
theorem InRange.next (hc : c.InRange pattern text)
    (h : c.Takes wildcard pattern text (.next c')) : c'.InRange pattern text := by
  cases h with
  | mark ht hp =>
      obtain ⟨hlt, -⟩ := Array.getElem?_eq_some_iff.mp hp
      refine ⟨hc.text_le, hlt, ?_, ?_⟩
      · rintro m ⟨⟩
        exact Nat.lt_succ_self _
      · rintro m ⟨⟩
        exact Nat.le_refl _
  | advance ht hp =>
      obtain ⟨htext, -⟩ := Array.getElem?_eq_some_iff.mp ht
      obtain ⟨hpattern, -⟩ := Array.getElem?_eq_some_iff.mp hp
      refine ⟨htext, hpattern, ?_, ?_⟩
      · intro m hm
        exact Nat.lt_succ_of_lt (hc.wildcard_lt m hm)
      · intro m hm
        exact Nat.le_succ_of_le (hc.resume_le m hm)
  | @retreat x m ht hp hm =>
      obtain ⟨htext, -⟩ := Array.getElem?_eq_some_iff.mp ht
      have hresume : m.resume < text.size := Nat.lt_of_le_of_lt (hc.resume_le m hm) htext
      have hwildcard : m.wildcard < pattern.size :=
        Nat.lt_of_lt_of_le (hc.wildcard_lt m hm) hc.pattern_le
      refine ⟨hresume, hwildcard, ?_, ?_⟩
      · rintro m' ⟨⟩
        exact Nat.lt_succ_self _
      · rintro m' ⟨⟩
        exact Nat.le_refl _

/-- The pattern up to the latest mark. -/
def passed (c : Cursor) : Nat := c.mark.elim 0 (·.wildcard + 1)

/-- The text position up to which the marked wildcard has swallowed. -/
def swallowed (c : Cursor) : Nat := c.mark.elim 0 (·.resume)

/-- What a scan has got to, the first component counting most. -/
def progress (c : Cursor) : ℕ ×ₗ ℕ ×ₗ ℕ := toLex (c.passed, toLex (c.swallowed, c.pattern))

theorem progress_lt_iff : c.progress < c'.progress ↔
    c.passed < c'.passed ∨ c.passed = c'.passed ∧
      (c.swallowed < c'.swallowed ∨ c.swallowed = c'.swallowed ∧ c.pattern < c'.pattern) := by
  simp [progress, Prod.Lex.toLex_lt_toLex]

/-- Every step that does not answer makes progress. -/
theorem progress_lt (hc : c.InRange pattern text)
    (h : c.Takes wildcard pattern text (.next c')) : c.progress < c'.progress := by
  rw [progress_lt_iff]
  cases h with
  | mark ht hp =>
      left
      cases hm : c.mark with
      | none => simp [passed, hm]
      | some m =>
          have := hc.wildcard_lt m hm
          simpa [passed, hm] using this
  | advance ht hp =>
      right
      refine ⟨rfl, Or.inr ⟨rfl, Nat.lt_succ_self _⟩⟩
  | retreat ht hp hm =>
      right
      simp [passed, swallowed, hm]

theorem InRange.passed_le (hc : c.InRange pattern text) : c.passed ≤ pattern.size := by
  cases hm : c.mark with
  | none => simp [passed, hm]
  | some m =>
      have hwildcard := hc.wildcard_lt m hm
      have hpattern := hc.pattern_le
      simp only [passed, hm, Option.elim_some]
      omega

theorem InRange.swallowed_le (hc : c.InRange pattern text) : c.swallowed ≤ text.size := by
  cases hm : c.mark with
  | none => simp [swallowed, hm]
  | some m =>
      have hresume := hc.resume_le m hm
      have htext := hc.text_le
      simp only [swallowed, hm, Option.elim_some]
      omega

/-- Progress as a number, its components being digits. -/
def rank (pattern text : Array Char) (c : Cursor) : Nat :=
  (c.passed * (text.size + 2) + c.swallowed) * (pattern.size + 2) + c.pattern

end Cursor

/-- A greater digit in front outweighs the digit behind it. -/
theorem mul_add_lt_of_lt {a a' b k : Nat} (ha : a < a') (hb : b < k) (b' : Nat) :
    a * k + b < a' * k + b' := by
  calc a * k + b < a * k + k := Nat.add_lt_add_left hb _
    _ = (a + 1) * k := (Nat.succ_mul a k).symm
    _ ≤ a' * k := Nat.mul_le_mul_right k ha
    _ ≤ a' * k + b' := Nat.le_add_right _ _

namespace Cursor

variable {wildcard : Char} {pattern text : Array Char} {c c' : Cursor}

theorem InRange.rank_lt_stepBound (hc : c.InRange pattern text) :
    c.rank pattern text < stepBound pattern text := by
  have hpassed := hc.passed_le
  have hswallowed := hc.swallowed_le
  have hpattern := hc.pattern_le
  have hfront : c.passed * (text.size + 2) + c.swallowed <
      (pattern.size + 2) * (text.size + 2) + 0 := mul_add_lt_of_lt (by omega) (by omega) 0
  exact mul_add_lt_of_lt hfront (by omega) 0

/-- Progress raises the rank. -/
theorem InRange.rank_lt_rank (hc : c.InRange pattern text) (h : c.progress < c'.progress) :
    c.rank pattern text < c'.rank pattern text := by
  have hswallowed := hc.swallowed_le
  have hpattern := hc.pattern_le
  rcases progress_lt_iff.mp h with h | ⟨hpassed, h | ⟨heq, h⟩⟩
  · refine mul_add_lt_of_lt ?_ (by omega) _
    exact mul_add_lt_of_lt h (by omega) _
  · refine mul_add_lt_of_lt ?_ (by omega) _
    rw [hpassed]
    exact Nat.add_lt_add_left h _
  · rw [rank, rank, hpassed, heq]
    exact Nat.add_lt_add_left h _

end Cursor

end Criteria.Pattern
