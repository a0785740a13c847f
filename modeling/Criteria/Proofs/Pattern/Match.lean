import Criteria.Proofs.Pattern.Course

/-!
# What a pattern stands for

`Matches` says which texts a pattern stands for, by its characters and without any
scanning. The main statement is `accepts_iff_matches`: a scan accepts a text exactly
where the pattern stands for all of it.

A scan keeps the latest mark only and forgets those before. Nothing is lost by this.
What stands between the mark and the cursor is no wildcard, so it takes as many
characters of the text as it has; whenever the mark could be moved to a match, the
rest of the pattern would match a later rest of the text as well
(`Cursor.exists_later_of_pending`). At the next wildcard this rest begins with a
wildcard, which may swallow what lies between.
-/

namespace Criteria.Pattern

/-- The pattern stands for the text. A wildcard stands for any run of characters, even
where it is `_`; any other `_` for one character; and all else for itself. -/
inductive Matches (wildcard : Char) : List Char → List Char → Prop
  | nil : Matches wildcard [] []
  | run {pattern text : List Char} (run : List Char) (h : Matches wildcard pattern text) :
      Matches wildcard (wildcard :: pattern) (run ++ text)
  | one {pattern text : List Char} (x : Char) (hwildcard : '_' ≠ wildcard)
      (h : Matches wildcard pattern text) : Matches wildcard ('_' :: pattern) (x :: text)
  | self {pattern text : List Char} {y : Char} (hwildcard : y ≠ wildcard) (hone : y ≠ '_')
      (h : Matches wildcard pattern text) : Matches wildcard (y :: pattern) (y :: text)

section

variable {wildcard y x : Char} {pattern text : List Char}

theorem matches_nil_iff : Matches wildcard [] text ↔ text = [] := by
  constructor
  · rintro ⟨⟩
    rfl
  · rintro rfl
    exact .nil

/-- A wildcard leaves any later rest of the text to the rest of the pattern. -/
theorem matches_wildcard_iff :
    Matches wildcard (wildcard :: pattern) text ↔ ∃ k, Matches wildcard pattern (text.drop k) := by
  constructor
  · intro h
    cases h with
    | run run h => exact ⟨run.length, by rwa [List.drop_left]⟩
    | one x hwildcard h => exact absurd rfl hwildcard
    | self hwildcard hone h => exact absurd rfl hwildcard
  · rintro ⟨k, h⟩
    have hrun := Matches.run (text.take k) h
    rwa [List.take_append_drop] at hrun

/-- Any other character takes one character of the text. -/
theorem matches_cons_cons_iff (hy : y ≠ wildcard) :
    Matches wildcard (y :: pattern) (x :: text) ↔
      (y = '_' ∨ y = x) ∧ Matches wildcard pattern text := by
  constructor
  · intro h
    generalize hwhole : x :: text = whole at h
    cases h with
    | run run h => exact absurd rfl hy
    | one z hwildcard h =>
        obtain ⟨-, rfl⟩ := List.cons.inj hwhole
        exact ⟨Or.inl rfl, h⟩
    | self hwildcard hone h =>
        obtain ⟨rfl, rfl⟩ := List.cons.inj hwhole
        exact ⟨Or.inr rfl, h⟩
  · rintro ⟨hxy, h⟩
    by_cases hone : y = '_'
    · subst hone
      exact .one x hy h
    · obtain rfl := hxy.resolve_left hone
      exact .self hy hone h

theorem not_matches_cons_nil (hy : y ≠ wildcard) : ¬ Matches wildcard (y :: pattern) [] := by
  intro h
  generalize htext : ([] : List Char) = text at h
  cases h with
  | run run h => exact hy rfl
  | one | self => cases htext

/-- Nothing but wildcards stands for the empty text. -/
theorem matches_nil_right_iff :
    Matches wildcard pattern [] ↔ pattern.all (· == wildcard) = true := by
  induction pattern with
  | nil => simp [matches_nil_iff]
  | cons y pattern ih =>
      by_cases hy : y = wildcard
      · subst hy
        simp [matches_wildcard_iff, ih]
      · simp [not_matches_cons_nil hy, hy]

/-- Characters other than wildcards take as many characters of the text. -/
theorem Matches.drop_of_not_mem {literal : List Char} (hliteral : wildcard ∉ literal)
    (h : Matches wildcard (literal ++ pattern) text) :
    Matches wildcard pattern (text.drop literal.length) := by
  induction literal generalizing text with
  | nil => exact h
  | cons y literal ih =>
      rw [List.mem_cons, not_or] at hliteral
      obtain ⟨hy, hliteral⟩ := hliteral
      cases text with
      | nil => exact absurd h (not_matches_cons_nil (Ne.symm hy))
      | cons x text =>
          rw [List.cons_append, matches_cons_cons_iff (Ne.symm hy)] at h
          exact ih hliteral h.2

/-- From a position on, a wildcard may swallow up to any position behind. -/
theorem matches_wildcard_drop_iff {i : Nat} :
    Matches wildcard (wildcard :: pattern) (text.drop i) ↔
      ∃ k ≥ i, Matches wildcard pattern (text.drop k) := by
  rw [matches_wildcard_iff]
  constructor
  · rintro ⟨k, h⟩
    rw [List.drop_drop] at h
    exact ⟨i + k, Nat.le_add_right i k, h⟩
  · rintro ⟨k, hk, h⟩
    refine ⟨k - i, ?_⟩
    rwa [List.drop_drop, Nat.add_sub_cancel' hk]

end

theorem drop_eq_cons {a : Array Char} {i : Nat} {x : Char} (h : a[i]? = some x) :
    a.toList.drop i = x :: a.toList.drop (i + 1) := by
  obtain ⟨hi, rfl⟩ := Array.getElem?_eq_some_iff.mp h
  exact List.drop_eq_getElem_cons hi

theorem drop_eq_nil {a : Array Char} {i k : Nat} (h : a[i]? = none) (hk : i ≤ k) :
    a.toList.drop k = [] := by
  have hi : a.size ≤ i := Array.getElem?_eq_none_iff.mp h
  exact List.drop_eq_nil_of_le (Nat.le_trans hi hk)

namespace Cursor

/-- The scan can still come to a match: where the cursor stands, or from the mark, its
wildcard swallowing more. -/
def Pending (wildcard : Char) (pattern text : Array Char) (c : Cursor) : Prop :=
  Matches wildcard (pattern.toList.drop c.pattern) (text.toList.drop c.text) ∨
    ∃ m ∈ c.mark, ∃ k > m.resume,
      Matches wildcard (pattern.toList.drop (m.wildcard + 1)) (text.toList.drop k)

/-- Between the mark and the cursor stands no wildcard, and the text has been followed
for as many characters. -/
def Trails (wildcard : Char) (pattern : Array Char) (c : Cursor) : Prop :=
  ∀ m ∈ c.mark, ∃ literal, wildcard ∉ literal ∧ c.text = m.resume + literal.length ∧
    pattern.toList.drop (m.wildcard + 1) = literal ++ pattern.toList.drop c.pattern

variable {wildcard : Char} {pattern text : Array Char} {c c' : Cursor}

/-- A match from the mark is one of the rest of the pattern, further on in the text. -/
theorem exists_later_of_pending (hc : c.Trails wildcard pattern) {m : Mark} (hm : m ∈ c.mark)
    {k : Nat} (hk : k > m.resume)
    (h : Matches wildcard (pattern.toList.drop (m.wildcard + 1)) (text.toList.drop k)) :
    ∃ j > c.text, Matches wildcard (pattern.toList.drop c.pattern) (text.toList.drop j) := by
  obtain ⟨literal, hliteral, htext, hpattern⟩ := hc m hm
  rw [hpattern] at h
  have hrest := h.drop_of_not_mem hliteral
  rw [List.drop_drop] at hrest
  exact ⟨k + literal.length, by omega, hrest⟩

theorem trails_start : start.Trails wildcard pattern := nofun

theorem Trails.next (hc : c.Trails wildcard pattern)
    (h : c.Takes wildcard pattern text (.next c')) : c'.Trails wildcard pattern := by
  cases h with
  | mark ht hp =>
      rintro m ⟨⟩
      exact ⟨[], List.not_mem_nil, rfl, rfl⟩
  | @advance x y ht hp hy hxy =>
      intro m hm
      obtain ⟨literal, hliteral, htext, hpattern⟩ := hc m hm
      refine ⟨literal ++ [y], ?_, ?_, ?_⟩
      · simp [hliteral, Ne.symm hy]
      · simp [htext, Nat.add_assoc]
      · rw [hpattern, drop_eq_cons hp, List.append_assoc]
        rfl
  | retreat ht hp hm =>
      rintro m ⟨⟩
      exact ⟨[], List.not_mem_nil, rfl, rfl⟩

/-- The mark may be left out of account where a match further on in the text would be
one at the cursor as well. -/
theorem pending_iff_matches (hc : c.Trails wildcard pattern)
    (hlater : ∀ j > c.text, Matches wildcard (pattern.toList.drop c.pattern) (text.toList.drop j) →
      Matches wildcard (pattern.toList.drop c.pattern) (text.toList.drop c.text)) :
    c.Pending wildcard pattern text ↔
      Matches wildcard (pattern.toList.drop c.pattern) (text.toList.drop c.text) := by
  constructor
  · rintro (h | ⟨m, hm, k, hk, h⟩)
    · exact h
    · obtain ⟨j, hj, h⟩ := exists_later_of_pending hc hm hk h
      exact hlater j hj h
  · intro h
    exact Or.inl h

theorem not_matches_of_mismatch {x : Char} (ht : text[c.text]? = some x)
    (hp : ∀ y, pattern[c.pattern]? = some y → y ≠ wildcard ∧ ¬ (y = '_' ∨ y = x)) :
    ¬ Matches wildcard (pattern.toList.drop c.pattern) (text.toList.drop c.text) := by
  rw [drop_eq_cons ht]
  cases hy : pattern[c.pattern]? with
  | none =>
      rw [drop_eq_nil hy (Nat.le_refl _), matches_nil_iff]
      exact List.cons_ne_nil _ _
  | some y =>
      obtain ⟨hwildcard, hxy⟩ := hp y hy
      rw [drop_eq_cons hy, matches_cons_cons_iff hwildcard]
      intro h
      exact hxy h.1

/-- A step that does not answer neither loses a match nor makes one up. -/
theorem pending_iff_next (hc : c.Trails wildcard pattern)
    (h : c.Takes wildcard pattern text (.next c')) :
    c.Pending wildcard pattern text ↔ c'.Pending wildcard pattern text := by
  cases h with
  | mark ht hp =>
      -- Whatever the old mark could come to, the wildcard at the cursor can as well.
      rw [pending_iff_matches hc, drop_eq_cons hp, matches_wildcard_drop_iff]
      · constructor
        · rintro ⟨k, hk, h⟩
          rcases Nat.eq_or_lt_of_le hk with rfl | hk
          · exact Or.inl h
          · exact Or.inr ⟨_, rfl, k, hk, h⟩
        · rintro (h | ⟨m, ⟨⟩, k, hk, h⟩)
          · exact ⟨c.text, Nat.le_refl _, h⟩
          · exact ⟨k, Nat.le_of_lt hk, h⟩
      · intro j hj h
        rw [drop_eq_cons hp, matches_wildcard_drop_iff] at h ⊢
        obtain ⟨k, hk, h⟩ := h
        exact ⟨k, by omega, h⟩
  | advance ht hp hy hxy =>
      simp only [Pending]
      rw [drop_eq_cons ht, drop_eq_cons hp, matches_cons_cons_iff hy, and_iff_right hxy]
  | @retreat x m ht hp hm =>
      constructor
      · rintro (h | ⟨m', hm', k, hk, h⟩)
        · exact absurd h (not_matches_of_mismatch ht hp)
        · obtain rfl : m = m' := Option.some.inj (hm.symm.trans hm')
          rcases Nat.eq_or_lt_of_le (Nat.succ_le_of_lt hk) with rfl | hk
          · exact Or.inl h
          · exact Or.inr ⟨_, rfl, k, hk, h⟩
      · rintro (h | ⟨m', ⟨⟩, k, hk, h⟩)
        · exact Or.inr ⟨m, hm, m.resume + 1, Nat.lt_succ_self _, h⟩
        · exact Or.inr ⟨m, hm, k, Nat.lt_of_succ_lt hk, h⟩

/-- An answer is true exactly where there is a match to come to. -/
theorem pending_iff_answer (hc : c.Trails wildcard pattern) (hrange : c.InRange pattern text)
    {b : Bool} (h : c.Takes wildcard pattern text (.answer b)) :
    c.Pending wildcard pattern text ↔ b = true := by
  cases h with
  | finish ht =>
      rw [rest?_of_le hrange.pattern_le, Option.any_some]
      rw [pending_iff_matches hc, drop_eq_nil ht (Nat.le_refl _), matches_nil_right_iff]
      intro j hj h
      rw [drop_eq_nil ht (Nat.le_of_lt hj)] at h
      rwa [drop_eq_nil ht (Nat.le_refl _)]
  | refuse ht hp hm =>
      simp [Pending, hm, not_matches_of_mismatch ht hp]

/-- The invariant of a scan: it can still come to a match exactly where the pattern
stands for the text. -/
structure OnTrack (wildcard : Char) (pattern text : Array Char) (c : Cursor) : Prop where
  inRange : c.InRange pattern text
  trails : c.Trails wildcard pattern
  pending_iff : c.Pending wildcard pattern text ↔ Matches wildcard pattern.toList text.toList

theorem onTrack_start : start.OnTrack wildcard pattern text :=
  ⟨inRange_start, trails_start, by simp [Pending, start]⟩

theorem OnTrack.next (hc : c.OnTrack wildcard pattern text)
    (h : c.Takes wildcard pattern text (.next c')) : c'.OnTrack wildcard pattern text :=
  ⟨hc.inRange.next h, hc.trails.next h,
    (pending_iff_next hc.trails h).symm.trans hc.pending_iff⟩

theorem OnTrack.answer (hc : c.OnTrack wildcard pattern text) {b : Bool}
    (h : c.Takes wildcard pattern text (.answer b)) :
    b = true ↔ Matches wildcard pattern.toList text.toList :=
  (pending_iff_answer hc.trails hc.inRange h).symm.trans hc.pending_iff

end Cursor

/-- A scan from the beginning answers, and it tells whether the pattern stands for the
text. -/
theorem exists_scan_start (wildcard : Char) (pattern text : Array Char) :
    ∃ b, scan wildcard pattern text (stepBound pattern text) .start = some b ∧
      (b = true ↔ Matches wildcard pattern.toList text.toList) := by
  apply scan_of_invariant (Cursor.OnTrack wildcard pattern text)
    fun b => b = true ↔ Matches wildcard pattern.toList text.toList
  · intro c c' hc h
    exact hc.next h
  · intro c b hc h
    exact hc.answer h
  · exact Cursor.onTrack_start

/-- A scan accepts a text exactly where the pattern stands for it. -/
theorem accepts_iff_matches (wildcard : Char) (pattern text : String) :
    accepts wildcard pattern text = true ↔ Matches wildcard pattern.toList text.toList := by
  apply accepts_of_invariant (Cursor.OnTrack wildcard pattern.toList.toArray text.toList.toArray)
    fun b => b = true ↔ Matches wildcard pattern.toList text.toList
  · intro c c' hc h
    exact hc.next h
  · intro c b hc h
    exact hc.answer h
  · exact Cursor.onTrack_start

/-- As a wildcard, `_` stands for any run of characters. -/
example : accepts '_' "_c" "abc" = true ∧ accepts '%' "_c" "abc" = false := by decide

end Criteria.Pattern
