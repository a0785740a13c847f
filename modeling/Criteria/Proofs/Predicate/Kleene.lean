import Criteria.Predicate.Evaluation
import Criteria.Proofs.Value.Order

/-!
# Three-valued reading of predicates

A storage layer knows a third truth value: a comparison with a missing value, or
of two values without an order, is unknown. `Predicate.truth` reads a predicate in
this logic, the connectives being those of Kleene, and leaves unknown what is
unknown. Evaluation is two-valued instead and takes every unknown leaf for false.

No negation stands between a leaf and the root, so both readings agree on which
rows are found (`holds_iff_truth_eq_yes`): it is the same to give up what is
unknown at every leaf and once at the root.
-/

namespace Criteria

/-- Truth values of a storage layer. -/
inductive Kleene where
  | no
  | unknown
  | yes
deriving DecidableEq, Repr

namespace Kleene

/-- Conjunction: one that is false decides, and else one that is unknown. -/
def and : Kleene → Kleene → Kleene
  | no, _ => no
  | _, no => no
  | yes, yes => yes
  | _, _ => unknown

/-- Disjunction: one that is true decides, and else one that is unknown. -/
def or : Kleene → Kleene → Kleene
  | yes, _ => yes
  | _, yes => yes
  | no, no => no
  | _, _ => unknown

def all (ts : List Kleene) : Kleene := ts.foldr and yes

def any (ts : List Kleene) : Kleene := ts.foldr or no

def ofBool (b : Bool) : Kleene := if b then yes else no

/-- A test on what may not be there. -/
def ofOption : Option Bool → Kleene
  | some b => ofBool b
  | none => unknown

/-- What is left of a truth value where unknown counts as false. -/
def isYes (t : Kleene) : Bool := t == yes

theorem isYes_iff (t : Kleene) : t.isYes = true ↔ t = yes := beq_iff_eq

@[simp] theorem isYes_and (s t : Kleene) : (s.and t).isYes = (s.isYes && t.isYes) := by
  cases s <;> cases t <;> rfl

@[simp] theorem isYes_or (s t : Kleene) : (s.or t).isYes = (s.isYes || t.isYes) := by
  cases s <;> cases t <;> rfl

@[simp] theorem isYes_all (ts : List Kleene) : (all ts).isYes = ts.all isYes := by
  induction ts with
  | nil => rfl
  | cons t ts ih => exact (isYes_and t (all ts)).trans (congrArg (t.isYes && ·) ih)

@[simp] theorem isYes_any (ts : List Kleene) : (any ts).isYes = ts.any isYes := by
  induction ts with
  | nil => rfl
  | cons t ts ih => exact (isYes_or t (any ts)).trans (congrArg (t.isYes || ·) ih)

@[simp] theorem isYes_ofBool (b : Bool) : (ofBool b).isYes = b := by
  cases b <;> rfl

@[simp] theorem isYes_ofOption_map {α : Type} (o : Option α) (f : α → Bool) :
    (ofOption (o.map f)).isYes = o.any f := by
  cases o with
  | none => rfl
  | some a => exact isYes_ofBool (f a)

end Kleene

namespace Value

mutual

/-- Equality of two values. Null is equal to nothing for certain; lists of one
length are equal where all of their members are. -/
def equality : Value → Value → Kleene
  | null, _ => .unknown
  | _, null => .unknown
  | list xs, list ys => if xs.length = ys.length then .all (equalities xs ys) else .no
  | a, b => .ofOption ((a.order b).map Ordering.isEq)

/-- Equalities of the members of two lists, side by side. -/
def equalities : List Value → List Value → List Kleene
  | x :: xs, y :: ys => x.equality y :: equalities xs ys
  | _, _ => []

end

theorem equality_eq_order {a b : Value} (h : b.kind ≠ .set) :
    a.equality b = .ofOption ((a.order b).map Ordering.isEq) := by
  cases b with
  | list members => exact absurd rfl h
  | null => cases a <;> rfl
  | _ => cases a <;> rfl

theorem isYes_equality_of_order {a b : Value} (h : b.kind ≠ .set) :
    (a.equality b).isYes = a.agrees b := by
  rw [equality_eq_order h, agrees_eq_order h, Kleene.isYes_ofOption_map]
  cases a.order b with
  | none => rfl
  | some o => cases o <;> rfl

mutual

/-- Two values are equal for certain exactly where they agree. -/
theorem isYes_equality : ∀ a b : Value, (a.equality b).isYes = a.agrees b
  | list xs, list ys => by
      rw [equality, agrees, agreeAll_eq_all xs ys]
      by_cases h : xs.length = ys.length
      · rw [if_pos h, Kleene.isYes_all, decide_eq_true h, Bool.true_and]
      · rw [if_neg h, decide_eq_false h, Bool.false_and]
        rfl
  | null, list _ | text _, list _ | int _, list _ | uint _, list _ | float _, list _
  | bool _, list _ | date _, list _ | timestamp _, list _ | enum _, list _ => rfl
  | _, null | _, text _ | _, int _ | _, uint _ | _, float _ | _, bool _ | _, date _
  | _, timestamp _ | _, enum _ => isYes_equality_of_order (by simp [kind])

theorem agreeAll_eq_all : ∀ xs ys : List Value,
    agreeAll xs ys = (decide (xs.length = ys.length) && (equalities xs ys).all Kleene.isYes)
  | [], [] => rfl
  | [], _ :: _ => rfl
  | _ :: _, [] => rfl
  | x :: xs, y :: ys => by
      rw [agreeAll, equalities, List.all_cons, isYes_equality x y, agreeAll_eq_all xs ys]
      simp only [List.length_cons, Nat.add_right_cancel_iff]
      exact Bool.and_left_comm _ _ _

end

end Value

/-- Comparison of a stored value with a literal. Without an order it is unknown. -/
def CompareOp.truth (op : CompareOp) (stored literal : Value) : Kleene :=
  match op with
  | eq => stored.equality literal
  | _ => .ofOption ((stored.order literal).map op.accepts)

theorem CompareOp.isYes_truth (op : CompareOp) (stored literal : Value) :
    (op.truth stored literal).isYes = op.holds stored literal := by
  cases op with
  | eq => exact Value.isYes_equality stored literal
  | _ => exact Kleene.isYes_ofOption_map _ _

namespace Value

/-- A value lies between two bounds where two comparisons say so. -/
def inside (v lower upper : Value) : Kleene :=
  (CompareOp.gte.truth v lower).and (CompareOp.lte.truth v upper)

theorem isYes_inside (v lower upper : Value) :
    (v.inside lower upper).isYes = v.isWithin lower upper := by
  rw [inside, Kleene.isYes_and, CompareOp.isYes_truth, CompareOp.isYes_truth, isWithin_eq_any]
  simp only [CompareOp.holds]
  congr 2 <;> funext o <;> cases o <;> rfl

/-- A stored value is equal to one of the literals, or one of its members is. -/
def membership (values : List Value) : Value → Kleene
  | null => .unknown
  | list members => .any (members.flatMap fun m => values.map m.equality)
  | stored => .any (values.map stored.equality)

theorem any_isYes_map_equality (values : List Value) (v : Value) :
    (values.map v.equality).any Kleene.isYes = values.any v.agrees := by
  rw [List.any_map]
  congr 1
  funext w
  exact isYes_equality v w

theorem isYes_membership (values : List Value) {v : Value} (h : v.isNull = false) :
    (v.membership values).isYes = v.isOneOf values := by
  cases v with
  | null => cases h
  | list members =>
      rw [membership, isOneOf, Kleene.isYes_any, List.any_flatMap]
      congr 1
      funext m
      exact any_isYes_map_equality values m
  | _ => exact (Kleene.isYes_any _).trans (any_isYes_map_equality values _)

/-- A stored value matches a pattern; only of texts this can be said. -/
def likeness (wildcard : Char) (pattern : String) : Value → Kleene
  | text s => .ofBool (Pattern.accepts wildcard pattern s)
  | _ => .unknown

theorem isYes_likeness (wildcard : Char) (pattern : String) (v : Value) :
    (v.likeness wildcard pattern).isYes = v.isLike wildcard pattern := by
  cases v with
  | text s => exact Kleene.isYes_ofBool _
  | _ => rfl

end Value

/-- Stored side of a comparison, a missing value being null. -/
def FieldExpr.stored (d : Dialect) (row : Row) : FieldExpr → Value
  | property ref => (row ref).getD .null
  | lower inner => (inner.stored d row).mapText Text.lowercase
  | unaccent inner => (inner.stored d row).mapText d.unaccent

section

variable (d : Dialect) (row : Row)

/-- Evaluation reads what is stored unless it is null. -/
theorem FieldExpr.read_eq_stored (expr : FieldExpr) :
    expr.read d row = (some (expr.stored d row)).filter fun v => !v.isNull := by
  induction expr with
  | property ref =>
      rw [read, stored, Row.get]
      cases row ref <;> rfl
  | lower inner ih | unaccent inner ih =>
      rw [read, stored, ih, Option.filter_some, Option.filter_some, Value.isNull_mapText]
      cases (inner.stored d row).isNull <;> rfl

/-- A test that null fails may be made of the stored value, missing or not. -/
theorem FieldExpr.any_read (expr : FieldExpr) (test : Value → Bool) (h : test .null = false) :
    (expr.read d row).any test = test (expr.stored d row) := by
  rw [read_eq_stored]
  cases hv : expr.stored d row with
  | null => exact h.symm
  | _ => rfl

namespace Predicate

mutual

/-- Truth of the predicate on the row. -/
def truth (d : Dialect) (row : Row) : Predicate → Kleene
  | and children => .all (truths d row children)
  | or children => .any (truths d row children)
  | compare expr op value => op.truth (expr.stored d row) value
  | like expr pattern => (expr.stored d row).likeness d.wildcard pattern
  | oneOf expr values => (expr.stored d row).membership values
  | isNull expr => .ofBool (expr.stored d row).isNull
  | between expr lower upper => (expr.stored d row).inside lower upper
  | within value lower upper => value.inside (lower.stored d row) (upper.stored d row)

def truths (d : Dialect) (row : Row) : List Predicate → List Kleene
  | [] => []
  | p :: ps => p.truth d row :: truths d row ps

end

theorem isYes_truth_compare (expr : FieldExpr) (op : CompareOp) (value : Value) :
    ((compare expr op value).truth d row).isYes = (compare expr op value).holds d row := by
  rw [truth, holds, CompareOp.isYes_truth]
  refine (expr.any_read d row (op.holds · value) ?_).symm
  cases op with
  | eq => exact Value.agrees_null_left value
  | _ => cases value <;> rfl

theorem isYes_truth_like (expr : FieldExpr) (pattern : String) :
    ((like expr pattern).truth d row).isYes = (like expr pattern).holds d row := by
  rw [truth, holds, Value.isYes_likeness]
  exact (expr.any_read d row (Value.isLike d.wildcard pattern) rfl).symm

theorem isYes_truth_oneOf (expr : FieldExpr) (values : List Value) :
    ((oneOf expr values).truth d row).isYes = (oneOf expr values).holds d row := by
  rw [truth, holds, expr.read_eq_stored]
  cases hnull : (expr.stored d row).isNull with
  | true =>
      -- Here alone null is told apart: a list without literals would reject it.
      cases hv : expr.stored d row with
      | null => rfl
      | _ => rw [hv] at hnull; cases hnull
  | false =>
      rw [Option.filter_some, hnull]
      exact Value.isYes_membership values hnull

theorem isYes_truth_isNull (expr : FieldExpr) :
    ((isNull expr).truth d row).isYes = (isNull expr).holds d row := by
  rw [truth, holds, expr.read_eq_stored, Kleene.isYes_ofBool, Option.filter_some]
  cases (expr.stored d row).isNull <;> rfl

theorem isYes_truth_between (expr : FieldExpr) (lower upper : Value) :
    ((between expr lower upper).truth d row).isYes = (between expr lower upper).holds d row := by
  rw [truth, holds, Value.isYes_inside]
  refine (expr.any_read d row (·.isWithin lower upper) ?_).symm
  cases lower <;> rfl

theorem isYes_truth_within (value : Value) (lower upper : FieldExpr) :
    ((within value lower upper).truth d row).isYes = (within value lower upper).holds d row := by
  have hlower (u : Value) : value.isWithin .null u = false := by
    cases value <;> rfl
  have hupper (l : Value) : value.isWithin l .null = false := by
    rw [Value.isWithin_eq_any, Bool.and_eq_false_iff]
    right
    cases value <;> rfl
  rw [truth, holds, Value.isYes_inside]
  calc value.isWithin (lower.stored d row) (upper.stored d row)
      = (upper.read d row).any (value.isWithin (lower.stored d row)) :=
        (upper.any_read d row (value.isWithin _) (hupper _)).symm
    _ = (lower.read d row).any fun l => (upper.read d row).any (value.isWithin l) := by
        refine (lower.any_read d row (fun l => (upper.read d row).any (value.isWithin l)) ?_).symm
        rw [upper.any_read d row (value.isWithin .null) (hupper _)]
        exact hlower _

mutual

/-- Evaluation finds true what is true in three-valued logic. -/
theorem isYes_truth : ∀ p : Predicate, (p.truth d row).isYes = p.holds d row
  | and ps => by
      have hps := congrArg (List.all · id) (map_isYes_truths ps)
      rw [truth, holds_and, Kleene.isYes_all]
      simpa only [List.all_map, Function.id_comp] using hps
  | or ps => by
      have hps := congrArg (List.any · id) (map_isYes_truths ps)
      rw [truth, holds_or, Kleene.isYes_any]
      simpa only [List.any_map, Function.id_comp] using hps
  | compare expr op value => isYes_truth_compare d row expr op value
  | like expr pattern => isYes_truth_like d row expr pattern
  | oneOf expr values => isYes_truth_oneOf d row expr values
  | isNull expr => isYes_truth_isNull d row expr
  | between expr lower upper => isYes_truth_between d row expr lower upper
  | within value lower upper => isYes_truth_within d row value lower upper

theorem map_isYes_truths : ∀ ps : List Predicate,
    (truths d row ps).map Kleene.isYes = ps.map (holds d row)
  | [] => rfl
  | p :: ps => by
      rw [truths, List.map_cons, List.map_cons, isYes_truth p, map_isYes_truths ps]

end

/-- A predicate holds of a row exactly where its truth is certain, however it was
built. -/
theorem holds_iff_truth_eq_yes (p : Predicate) :
    p.holds d row = true ↔ p.truth d row = .yes := by
  rw [← isYes_truth]
  exact Kleene.isYes_iff _

end Predicate

end

end Criteria
