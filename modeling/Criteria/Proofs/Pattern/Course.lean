import Criteria.Proofs.Pattern.Progress

/-!
# The course of a scan

A scan comes to one cursor after another; `Visits` tells to which, and after how many
steps. What a single step keeps and moves forward is carried along the whole course
here. The cursor never leaves its range, so what is left of the pattern can be read
wherever it stands. Its rank grows with every step, so that the course breaks off
below `stepBound`, and it can only break off with an answer (`scan_ends_in_range`).

Whatever every step keeps can therefore be used of the answer of a scan
(`accepts_of_invariant`).
-/

namespace Criteria.Pattern

/-- From its beginning, the scan comes to the cursor in the given number of steps. -/
inductive Visits (wildcard : Char) (pattern text : Array Char) : Nat → Cursor → Prop
  | start : Visits wildcard pattern text 0 .start
  | next {n : Nat} {c c' : Cursor} (h : Visits wildcard pattern text n c)
      (hstep : c.step wildcard pattern text = .next c') : Visits wildcard pattern text (n + 1) c'

section

variable {wildcard : Char} {pattern text : Array Char}

namespace Visits

variable {n m : Nat} {c c' d : Cursor} {b : Bool}

/-- What holds at the beginning and is kept by every step holds along the course. -/
theorem invariant (Inv : Cursor → Prop)
    (hnext : ∀ c c', Inv c → c.Takes wildcard pattern text (.next c') → Inv c')
    (hstart : Inv .start) (h : Visits wildcard pattern text n c) : Inv c := by
  induction h with
  | start => exact hstart
  | next h hstep ih => exact hnext _ _ ih (Cursor.takes_of_step hstep)

theorem inRange (h : Visits wildcard pattern text n c) : c.InRange pattern text :=
  h.invariant (Cursor.InRange pattern text) (fun _ _ hc hstep => hc.next hstep)
    Cursor.inRange_start

theorem progress_lt_of_step (h : Visits wildcard pattern text n c)
    (hstep : c.step wildcard pattern text = .next c') : c.progress < c'.progress :=
  Cursor.progress_lt h.inRange (Cursor.takes_of_step hstep)

/-- Every step raises the rank by one at least. -/
theorem le_rank (h : Visits wildcard pattern text n c) : n ≤ c.rank pattern text := by
  induction h with
  | start => exact Nat.zero_le _
  | next h hstep ih =>
      have hrank := h.inRange.rank_lt_rank (h.progress_lt_of_step hstep)
      exact Nat.succ_le_of_lt (Nat.lt_of_le_of_lt ih hrank)

theorem lt_stepBound (h : Visits wildcard pattern text n c) : n < stepBound pattern text :=
  Nat.lt_of_le_of_lt h.le_rank h.inRange.rank_lt_stepBound

/-- A scan from the beginning goes on from every cursor of its course with the steps
that it has left. -/
theorem scan_add (h : Visits wildcard pattern text n c) (k : Nat) :
    scan wildcard pattern text (n + k) .start = scan wildcard pattern text k c := by
  induction h generalizing k with
  | start => rw [Nat.zero_add]
  | @next n c c' h hstep ih =>
      rw [Nat.add_assoc, ih, Nat.add_comm 1 k, scan, hstep]

theorem scan_of_lt (h : Visits wildcard pattern text n c)
    (hstep : c.step wildcard pattern text = .answer b) {fuel : Nat} (hfuel : n < fuel) :
    scan wildcard pattern text fuel .start = some b := by
  obtain ⟨k, rfl⟩ := Nat.exists_eq_add_of_lt hfuel
  rw [Nat.add_assoc, h.scan_add, scan, hstep]

/-- The course breaks off with the first answer. -/
theorem le_of_answer (h : Visits wildcard pattern text n c)
    (hstep : c.step wildcard pattern text = .answer b) (hd : Visits wildcard pattern text m d) :
    m ≤ n := by
  by_contra hm
  -- A scan of `m` steps has answered, while at `d` it has no step left to answer in.
  have hanswer := h.scan_of_lt hstep (Nat.lt_of_not_le hm)
  have hnone := hd.scan_add 0
  rw [Nat.add_zero, hanswer, scan] at hnone
  exact absurd hnone (Option.some_ne_none b)

end Visits

/-- Some cursor of the course answers; otherwise it would go on beyond `stepBound`. -/
theorem exists_visits_answer (wildcard : Char) (pattern text : Array Char) :
    ∃ n c b, Visits wildcard pattern text n c ∧ c.step wildcard pattern text = .answer b := by
  by_contra hnone
  have hcourse : ∀ n, ∃ c, Visits wildcard pattern text n c := by
    intro n
    induction n with
    | zero => exact ⟨.start, .start⟩
    | succ n ih =>
        obtain ⟨c, hc⟩ := ih
        cases hstep : c.step wildcard pattern text with
        | answer b => exact absurd ⟨n, c, b, hc, hstep⟩ hnone
        | next c' => exact ⟨c', hc.next hstep⟩
  obtain ⟨c, hc⟩ := hcourse (stepBound pattern text)
  exact Nat.lt_irrefl _ hc.lt_stepBound

/-- What holds at the beginning of a scan, is kept by its steps and yields a
property of every answer, yields it of the answer of the scan. -/
theorem scan_of_invariant (Inv : Cursor → Prop) (Answer : Bool → Prop)
    (hnext : ∀ c c', Inv c → c.Takes wildcard pattern text (.next c') → Inv c')
    (hanswer : ∀ c b, Inv c → c.Takes wildcard pattern text (.answer b) → Answer b)
    (hstart : Inv .start) :
    ∃ b, scan wildcard pattern text (stepBound pattern text) .start = some b ∧ Answer b := by
  obtain ⟨n, c, b, hc, hstep⟩ := exists_visits_answer wildcard pattern text
  have hinv : Inv c := hc.invariant Inv hnext hstart
  exact ⟨b, hc.scan_of_lt hstep hc.lt_stepBound, hanswer c b hinv (Cursor.takes_of_step hstep)⟩

end

theorem accepts_of_scan {wildcard : Char} {pattern text : String} {b : Bool}
    (h : scan wildcard pattern.toList.toArray text.toList.toArray
      (stepBound pattern.toList.toArray text.toList.toArray) .start = some b) :
    accepts wildcard pattern text = b := by
  simp only [accepts, h, Option.getD_some]

/-- The same for matching a text against a pattern. -/
theorem accepts_of_invariant {wildcard : Char} {pattern text : String} (Inv : Cursor → Prop)
    (Answer : Bool → Prop)
    (hnext : ∀ c c', Inv c →
      c.Takes wildcard pattern.toList.toArray text.toList.toArray (.next c') → Inv c')
    (hanswer : ∀ c b, Inv c →
      c.Takes wildcard pattern.toList.toArray text.toList.toArray (.answer b) → Answer b)
    (hstart : Inv .start) : Answer (accepts wildcard pattern text) := by
  obtain ⟨b, hscan, hb⟩ := scan_of_invariant Inv Answer hnext hanswer hstart
  rw [accepts_of_scan hscan]
  exact hb

/-- A scan comes to an end, with the answer of its last cursor. On the way the latest
mark, the position up to which it has swallowed and the position in the pattern move
forward with every step, in this order of precedence. No position leaves its range, and
what is left of the pattern can be read everywhere. -/
theorem scan_ends_in_range (wildcard : Char) (pattern text : String) :
    (∃ n c, Visits wildcard pattern.toList.toArray text.toList.toArray n c ∧
      c.step wildcard pattern.toList.toArray text.toList.toArray =
        .answer (accepts wildcard pattern text) ∧
      ∀ m d, Visits wildcard pattern.toList.toArray text.toList.toArray m d → m ≤ n) ∧
    ∀ n c, Visits wildcard pattern.toList.toArray text.toList.toArray n c →
      c.InRange pattern.toList.toArray text.toList.toArray ∧
      (rest? pattern.toList.toArray c.pattern).isSome ∧
      ∀ c', c.step wildcard pattern.toList.toArray text.toList.toArray = .next c' →
        c.progress < c'.progress := by
  constructor
  · obtain ⟨n, c, b, hc, hstep⟩ :=
      exists_visits_answer wildcard pattern.toList.toArray text.toList.toArray
    refine ⟨n, c, hc, ?_, ?_⟩
    · rw [accepts_of_scan (hc.scan_of_lt hstep hc.lt_stepBound), hstep]
    · intro m d hd
      exact hc.le_of_answer hstep hd
  · intro n c hc
    refine ⟨hc.inRange, ?_, ?_⟩
    · rw [rest?_of_le hc.inRange.pattern_le, Option.isSome_some]
    · intro c' hstep
      exact hc.progress_lt_of_step hstep

/-- With its fourth step this scan goes back to the mark, and both positions of the
cursor move back. -/
theorem scan_ends_in_range_aaab :
    Visits '%' "%aab".toList.toArray "aaab".toList.toArray 3 ⟨2, 3, some ⟨0, 0⟩⟩ ∧
    Cursor.step '%' "%aab".toList.toArray "aaab".toList.toArray ⟨2, 3, some ⟨0, 0⟩⟩ =
      .next ⟨1, 1, some ⟨0, 1⟩⟩ ∧
    Cursor.InRange "%aab".toList.toArray "aaab".toList.toArray ⟨2, 3, some ⟨0, 0⟩⟩ ∧
    Cursor.progress ⟨2, 3, some ⟨0, 0⟩⟩ < Cursor.progress ⟨1, 1, some ⟨0, 1⟩⟩ := by
  have hvisits : Visits '%' "%aab".toList.toArray "aaab".toList.toArray 3
      ⟨2, 3, some ⟨0, 0⟩⟩ := .next (.next (.next .start rfl) rfl) rfl
  have hstep : Cursor.step '%' "%aab".toList.toArray "aaab".toList.toArray
      ⟨2, 3, some ⟨0, 0⟩⟩ = .next ⟨1, 1, some ⟨0, 1⟩⟩ := rfl
  obtain ⟨hrange, -, hprogress⟩ := (scan_ends_in_range '%' "%aab" "aaab").2 3 _ hvisits
  exact ⟨hvisits, hstep, hrange, hprogress _ hstep⟩

end Criteria.Pattern
