import Criteria.Proofs.Calendar.Order
import Criteria.Proofs.Predicate.Leaf

/-!
# Well-formed nodes

A storage layer translates predicates node by node and relies on the form of each
of them. `Predicate.WellFormed` says what the form is: how many children, which
literals, which stored sides, which patterns and which ranges. Only for a missing
value it depends on where the node comes from, namely on the properties whose
absence has been asked for.
-/

namespace Criteria

namespace Pattern

/-- A pattern with a wildcard at either end and no other white space than
wildcards. -/
def IsSearch (wildcard : Char) (pattern : String) : Prop :=
  ∃ words, pattern.toList = wildcard :: (words ++ [wildcard]) ∧
    ∀ c ∈ pattern.toList, Unicode.isWhiteSpace c = true → c = wildcard

theorem eq_wildcard_of_mem_collapse {wildcard : Char} {inBlank : Bool} {cs : List Char} {c : Char}
    (hc : c ∈ collapse wildcard inBlank cs) (hblank : Unicode.isWhiteSpace c = true) :
    c = wildcard := by
  induction cs generalizing inBlank with
  | nil => cases hc
  | cons d cs ih =>
      rw [collapse] at hc
      by_cases hd : Unicode.isWhiteSpace d = true
      · rw [if_pos hd] at hc
        cases inBlank with
        | true => exact ih hc
        | false =>
            rcases List.mem_cons.mp hc with rfl | hc
            · rfl
            · exact ih hc
      · rw [if_neg hd] at hc
        rcases List.mem_cons.mp hc with rfl | hc
        · exact absurd hblank hd
        · exact ih hc

/-- The pattern of a query is one that searches. -/
theorem isSearch_ofQuery (wildcard : Char) (query : String) :
    IsSearch wildcard (ofQuery wildcard query) := by
  have hlist : (ofQuery wildcard query).toList =
      wildcard :: (collapse wildcard false query.toList ++ [wildcard]) := String.toList_ofList
  refine ⟨collapse wildcard false query.toList, hlist, ?_⟩
  intro c hc hblank
  rw [hlist] at hc
  rcases List.mem_cons.mp hc with rfl | hc
  · rfl
  · rcases List.mem_append.mp hc with hc | hc
    · exact eq_wildcard_of_mem_collapse hc hblank
    · exact List.mem_singleton.mp hc

end Pattern

/-- Two dates or two timestamps in order. -/
def Value.IsSpan : Value → Value → Prop
  | date start, date stop => (compare start stop).isLE = true
  | timestamp start, timestamp stop => (compare start stop).isLE = true
  | _, _ => False

/-- A day ends after it has begun. -/
theorem Value.isSpan_day (day : Date) :
    IsSpan (timestamp day.midnight) (timestamp day.lastSecond) := by
  have hle : day.midnight.instant ≤ day.lastSecond.instant :=
    (Timestamp.midnight_le_iff day day.lastSecond).mpr (Int.le_refl _)
  exact (Std.isLE_compare (a := day.midnight.instant)).mpr hle

namespace Predicate

/-- The form of a node, given the properties whose absence has been asked for. -/
def WellFormed (wildcard : Char) (AsksMissing : PropertyRef → Prop) : Predicate → Prop
  | and children | or children => children.length = 2
  | compare expr op value =>
      (∃ ref, expr.IsStoredSide ref) ∧ value.kind ≠ .null ∧ value.kind ≠ .set ∧
        (op = .eq ∨ (value.isNumeric || value.isTemporal) = true)
  | like expr pattern => (∃ ref, expr.IsStoredSide ref) ∧ Pattern.IsSearch wildcard pattern
  | oneOf expr values =>
      (∃ ref, expr.IsStoredSide ref) ∧ values ≠ [] ∧ ∀ v ∈ values, v.kind ≠ .set
  | isNull expr => ∃ ref, expr = .property ref ∧ AsksMissing ref
  | between expr lower upper => (∃ ref, expr.IsStoredSide ref) ∧ lower.IsSpan upper
  | within value lower upper =>
      (value.isNumeric || value.isTemporal) = true ∧
        (∃ ref, lower = .property ref ∧ ref.joins = []) ∧
        ∃ ref, upper = .property ref ∧ ref.joins = []

variable {wildcard : Char} {AsksMissing : PropertyRef → Prop}

theorem wellFormed_of_isBinary {p : Predicate} (h : p.IsBinary) :
    p.WellFormed wildcard AsksMissing := by
  obtain ⟨op, a, b, rfl⟩ := h
  cases op <;> rfl

theorem kind_of_isNumeric_or_isTemporal {v : Value} (h : (v.isNumeric || v.isTemporal) = true) :
    v.kind = .ordered := by
  cases v <;> first | rfl | cases h

/-- A leaf that is built is well-formed, if the value is no empty list and null
has been asked for. -/
theorem wellFormed_of_builds {d : Dialect} {ref : PropertyRef} {v : Value} {p : Predicate}
    (h : d.Builds ref v p) (hempty : v.isEmptyList = false)
    (hmissing : v = .null → AsksMissing ref) : p.WellFormed d.wildcard AsksMissing := by
  cases h with
  | missing => exact ⟨ref, rfl, hmissing rfl⟩
  | equals hexpr hnull hset => exact ⟨⟨ref, hexpr⟩, hnull, hset, Or.inl rfl⟩
  | search query hexpr => exact ⟨⟨ref, hexpr⟩, Pattern.isSearch_ofQuery d.wildcard query⟩
  | members hflat =>
      refine ⟨⟨ref, .property⟩, ?_, hflat⟩
      rintro rfl
      cases hempty
  | ordered op hkind =>
      have hordered := kind_of_isNumeric_or_isTemporal hkind
      exact ⟨⟨ref, .property⟩, by simp [hordered], by simp [hordered], Or.inr hkind⟩
  | day day => exact ⟨⟨ref, .property⟩, Value.isSpan_day day⟩

end Predicate

end Criteria
