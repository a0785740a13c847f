import Criteria.Predicate.Construction
import Criteria.Predicate.Evaluation
import Criteria.Proofs.Predicate.Tree

/-!
# Renaming of references

The references of a predicate can be replaced by others. The result asks of a row what
the predicate asks of the row in which every reference is looked up under its new name.
A leaf is built from its reference by putting it in its place, so building commutes with
renaming.

`PropertyRef.flat` forgets which associations were joined on the way. The dotted name
stays the same by this, and a row that goes by dotted names does not notice.
-/

namespace Criteria

/-- The same expression over another property. -/
def FieldExpr.rename (f : PropertyRef → PropertyRef) : FieldExpr → FieldExpr
  | property ref => property (f ref)
  | lower inner => lower (inner.rename f)
  | unaccent inner => unaccent (inner.rename f)

theorem FieldExpr.read_rename (d : Dialect) (row : Row) (f : PropertyRef → PropertyRef)
    (expr : FieldExpr) : (expr.rename f).read d row = expr.read d (row ∘ f) := by
  induction expr with
  | property ref => rfl
  | lower inner ih | unaccent inner ih => rw [rename, read, read, ih]

namespace Predicate

mutual

/-- The same predicate with its references replaced. -/
def rename (f : PropertyRef → PropertyRef) : Predicate → Predicate
  | and children => and (renameAll f children)
  | or children => or (renameAll f children)
  | compare expr op value => compare (expr.rename f) op value
  | like expr pattern => like (expr.rename f) pattern
  | oneOf expr values => oneOf (expr.rename f) values
  | isNull expr => isNull (expr.rename f)
  | between expr lower upper => between (expr.rename f) lower upper
  | within value lower upper => within value (lower.rename f) (upper.rename f)

def renameAll (f : PropertyRef → PropertyRef) : List Predicate → List Predicate
  | [] => []
  | p :: ps => p.rename f :: renameAll f ps

end

theorem renameAll_eq_map (f : PropertyRef → PropertyRef) (ps : List Predicate) :
    renameAll f ps = ps.map (rename f) := by
  induction ps with
  | nil => rfl
  | cons p ps ih => rw [renameAll, ih, List.map_cons]

/-- A renamed predicate looks a row up under the new names. -/
theorem holds_rename (d : Dialect) (row : Row) (f : PropertyRef → PropertyRef) (p : Predicate) :
    (p.rename f).holds d row = p.holds d (row ∘ f) := by
  induction p using treeInduction with
  | and ps ih =>
      rw [rename, renameAll_eq_map, holds_and, holds_and, List.all_map, Bool.eq_iff_iff,
        List.all_eq_true, List.all_eq_true]
      exact forall₂_congr fun p hp => by rw [Function.comp_apply, ih p hp]
  | or ps ih =>
      rw [rename, renameAll_eq_map, holds_or, holds_or, List.any_map, Bool.eq_iff_iff,
        List.any_eq_true, List.any_eq_true]
      exact exists_congr fun p => and_congr_right fun hp => by rw [Function.comp_apply, ih p hp]
  | within value lower upper =>
      rw [rename, holds, holds, FieldExpr.read_rename, FieldExpr.read_rename]
  | compare expr | like expr | oneOf expr | isNull expr | between expr =>
      rw [rename, holds, holds, FieldExpr.read_rename]

end Predicate

namespace Dialect

variable (d : Dialect) (f : PropertyRef → PropertyRef) (ref : PropertyRef)

theorem membership_rename (values : List Value) :
    Predicate.membership (.property (f ref)) values =
      (Predicate.membership (.property ref) values).map (Predicate.rename f) := by
  unfold Predicate.membership
  cases values.find? (·.kind = .set) <;> rfl

/-- The leaf of another property is the same leaf, its property being replaced. -/
theorem leaf_rename (value : Value) (op : Operation) :
    d.leaf (f ref) value op = (d.leaf ref value op).map (Predicate.rename f) := by
  cases value with
  | text s => cases op <;> rfl
  | list values => exact membership_rename f ref values
  | date day | timestamp t =>
      by_cases hop : op = .dateTimeToDate
      · simp only [leaf, if_pos hop]
        rfl
      · simp only [leaf, if_neg hop]
        rfl
  | null | int n | uint n | float x | bool b | enum s => rfl

end Dialect

/-- The same segments, all of them navigated. -/
def PropertyRef.flat (r : PropertyRef) : PropertyRef := .navigate (r.joins ++ r.path)

theorem PropertyRef.dotted_flat (r : PropertyRef) : r.flat.dotted = r.dotted := rfl

/-- Rows that go by dotted names do not tell joins from navigation. -/
theorem Predicate.holds_rename_flat (d : Dialect) (columns : String → Option Value)
    (p : Predicate) :
    (p.rename .flat).holds d (.ofDotted columns) = p.holds d (.ofDotted columns) := by
  have hrow : Row.ofDotted columns ∘ PropertyRef.flat = Row.ofDotted columns := by
    funext ref
    rw [Function.comp_apply, Row.ofDotted, PropertyRef.dotted_flat, Row.ofDotted]
  rw [holds_rename, hrow]

end Criteria
