import Criteria.Predicate.Evaluation
import Criteria.Predicate.Fold

/-!
# Truth of a fold

On one row every predicate is true or false, and a fold is as true as its
operator makes the list of these truth values. `Operator.value` reads such a
list, an empty conjunction being true and an empty disjunction false.
`Operator.settle` reads it as a constraint, and an empty list makes none.
-/

namespace Criteria

namespace Operator

/-- Truth of siblings under an operator. -/
def value (op : Operator) (bs : List Bool) : Bool :=
  match op with
  | and => bs.all id
  | or => bs.any id

/-- Truth of siblings under an operator, if there are any. -/
def settle (op : Operator) : List Bool → Option Bool
  | [] => none
  | b :: bs => some (op.value (b :: bs))

theorem settle_eq_none_iff (op : Operator) {bs : List Bool} : op.settle bs = none ↔ bs = [] := by
  cases bs <;> simp [settle]

theorem settle_of_ne_nil (op : Operator) {bs : List Bool} (h : bs ≠ []) :
    op.settle bs = some (op.value bs) := by
  cases bs with
  | nil => exact absurd rfl h
  | cons b bs => rfl

/-- Neither order nor repetition of siblings matters. -/
theorem value_congr (op : Operator) {bs cs : List Bool} (h : ∀ b, b ∈ bs ↔ b ∈ cs) :
    op.value bs = op.value cs := by
  rw [Bool.eq_iff_iff]
  cases op with
  | and => simp only [value, List.all_eq_true, h]
  | or => simp only [value, List.any_eq_true, h]

theorem settle_congr (op : Operator) {bs cs : List Bool} (h : ∀ b, b ∈ bs ↔ b ∈ cs) :
    op.settle bs = op.settle cs := by
  by_cases hbs : bs = []
  · have hcs : cs = [] := by
      apply List.eq_nil_iff_forall_not_mem.mpr
      intro b hb
      rw [← h, hbs] at hb
      cases hb
    rw [hbs, hcs]
  · have hcs : cs ≠ [] := by
      rintro rfl
      obtain ⟨b, hb⟩ := List.exists_mem_of_ne_nil bs hbs
      cases (h b).mp hb
    rw [settle_of_ne_nil op hbs, settle_of_ne_nil op hcs, value_congr op h]

/-- An operator reads two neighbours together as it reads them apart. -/
theorem value_value_cons (op : Operator) (a b : Bool) (bs : List Bool) :
    op.value (op.value [a, b] :: bs) = op.value (a :: b :: bs) := by
  cases op with
  | and => simp [value, Bool.and_assoc]
  | or => simp [value, Bool.or_assoc]

/-- Siblings settled by the same operator beforehand may stand there on their own. -/
theorem settle_append_settle (op : Operator) (before inner after : List Bool) :
    op.settle (before ++ (op.settle inner).toList ++ after) =
      op.settle (before ++ inner ++ after) := by
  by_cases hinner : inner = []
  · rw [hinner]
    rfl
  · have hvalue : op.value (before ++ [op.value inner] ++ after) =
        op.value (before ++ inner ++ after) := by
      cases op with
      | and => simp [value]
      | or => simp [value]
    rw [settle_of_ne_nil op hinner, Option.toList_some, settle_of_ne_nil op (by simp),
      settle_of_ne_nil op (by simp [hinner]), hvalue]

end Operator

namespace Predicate

variable (d : Dialect) (row : Row)

theorem holds_combine (op : Operator) (p q : Predicate) :
    (op.combine p q).holds d row = op.value [p.holds d row, q.holds d row] := by
  cases op with
  | and => simp [Operator.combine, Operator.value]
  | or => simp [Operator.combine, Operator.value]

theorem holds_foldl_combine (op : Operator) (p : Predicate) (ps : List Predicate) :
    (ps.foldl op.combine p).holds d row =
      op.value (p.holds d row :: ps.map (holds d row)) := by
  induction ps generalizing p with
  | nil => cases op <;> simp [Operator.value]
  | cons q ps ih =>
      rw [List.foldl_cons, ih, holds_combine, List.map_cons, Operator.value_value_cons]

/-- A fold is as true as its operator makes the folded predicates. -/
theorem map_holds_fold (op : Operator) (ps : List Predicate) :
    (op.fold ps).map (holds d row) = op.settle (ps.map (holds d row)) := by
  cases ps with
  | nil => rfl
  | cons p ps => rw [Operator.fold, Option.map_some, holds_foldl_combine]; rfl

/-- A conjunction that may be missing asks for all that it was folded from. -/
theorem all_holds_fold (ps : List Predicate) :
    (Operator.and.fold ps).all (holds d row) = Operator.and.value (ps.map (holds d row)) := by
  cases ps with
  | nil => rfl
  | cons p ps => rw [Operator.fold, Option.all_some, holds_foldl_combine]; rfl

end Predicate

end Criteria
