import Criteria.Predicate.Basic

/-!
# Folding predicates

Siblings are combined from left to right into nodes of exactly two children,
without flattening. One predicate alone stays as it is, and none at all gives no
predicate, which means no constraint.
-/

namespace Criteria.Operator

/-- Combines what has been folded so far with the next predicate. -/
def combine (op : Operator) (acc next : Predicate) : Predicate :=
  match op with
  | and => .and [acc, next]
  | or => .or [acc, next]

/-- Folds a list of predicates from the left. -/
def fold (op : Operator) : List Predicate → Option Predicate
  | [] => none
  | p :: ps => some (ps.foldl op.combine p)

@[simp] theorem fold_nil (op : Operator) : op.fold [] = none := rfl

@[simp] theorem fold_singleton (op : Operator) (p : Predicate) : op.fold [p] = some p := rfl

@[simp] theorem fold_eq_none_iff (op : Operator) (ps : List Predicate) :
    op.fold ps = none ↔ ps = [] := by
  cases ps <;> simp [fold]

end Criteria.Operator
