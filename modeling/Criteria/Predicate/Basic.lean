import Criteria.Operation
import Criteria.Schema.Reference
import Criteria.Value.Basic

/-!
# Predicates

A predicate is a condition on one stored record, as a tree. Its leaves compare
an expression over a stored property with literals. Expressions name functions
that the storage layer applies to the stored side: lower-casing and accent
removal.
-/

namespace Criteria

/-- Stored side of a comparison. -/
inductive FieldExpr where
  | property (ref : PropertyRef)
  | lower (inner : FieldExpr)
  /-- Accent removal, as the storage layer supplies it. -/
  | unaccent (inner : FieldExpr)
deriving DecidableEq

/-- The property at the bottom of an expression. -/
def FieldExpr.propertyRef : FieldExpr → PropertyRef
  | property ref => ref
  | lower inner | unaccent inner => inner.propertyRef

/-- Comparison of a stored value with a literal. -/
inductive CompareOp where
  | eq
  | lt
  | lte
  | gt
  | gte
deriving DecidableEq, Repr

namespace CompareOp

def all : List CompareOp := [eq, lt, lte, gt, gte]

def key : CompareOp → String
  | eq => "eq"
  | lt => "lt"
  | lte => "lte"
  | gt => "gt"
  | gte => "gte"

def ofKey? (key : String) : Option CompareOp := all.find? (·.key == key)

@[simp] theorem ofKey?_key (op : CompareOp) : ofKey? op.key = some op := by
  cases op <;> rfl

/-- The comparison holds of two values in this order. -/
def accepts : CompareOp → Ordering → Bool
  | eq, o => o == .eq
  | lt, o => o == .lt
  | lte, o => o != .gt
  | gt, o => o == .gt
  | gte, o => o != .lt

end CompareOp

/-- Condition on a stored record. -/
inductive Predicate where
  | and (children : List Predicate)
  | or (children : List Predicate)
  | compare (expr : FieldExpr) (op : CompareOp) (value : Value)
  | like (expr : FieldExpr) (pattern : String)
  | oneOf (expr : FieldExpr) (values : List Value)
  | isNull (expr : FieldExpr)
  /-- The stored value lies between two literals, both included. -/
  | between (expr : FieldExpr) (lower upper : Value)
  /-- The literal lies between two stored values, both included. -/
  | within (value : Value) (lower upper : FieldExpr)

namespace Predicate

mutual

/-- Number of leaves of the tree. -/
def leafCount : Predicate → Nat
  | and children => leafCounts children
  | or children => leafCounts children
  | _ => 1

def leafCounts : List Predicate → Nat
  | [] => 0
  | p :: ps => p.leafCount + leafCounts ps

end

end Predicate

end Criteria
