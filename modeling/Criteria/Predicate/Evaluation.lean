import Criteria.Dialect
import Criteria.Pattern
import Criteria.Predicate.Basic
import Criteria.Text.Lowercase
import Criteria.Value.Order

/-!
# Evaluation of predicates

A row is a stored record with its joined records, as a map from references to
values. A property that holds null and one that holds nothing are the same.
Comparisons that involve a missing value, or two values without an order, are
false; the negation of a predicate is not itself a predicate, so nothing more
than the truth of the whole is ever asked.
-/

namespace Criteria

/-- A stored record: the value of each property, if it has one. -/
abbrev Row := PropertyRef → Option Value

/-- A row that looks its properties up by their dotted names. -/
def Row.ofDotted (columns : String → Option Value) : Row := fun ref => columns ref.dotted

/-- Value of a property of a row; a stored null is no value. -/
def Row.get (row : Row) (ref : PropertyRef) : Option Value :=
  (row ref).filter fun v => !v.isNull

/-- Applies a function to a text and leaves other values alone. -/
def Value.mapText (f : String → String) : Value → Value
  | text s => text (f s)
  | v => v

@[simp] theorem Value.isNull_mapText (f : String → String) (v : Value) :
    (v.mapText f).isNull = v.isNull := by
  cases v <;> rfl

/-- Stored side of a comparison, after the functions of the expression. -/
def FieldExpr.read (d : Dialect) (row : Row) : FieldExpr → Option Value
  | property ref => row.get ref
  | lower inner => (inner.read d row).map (·.mapText Text.lowercase)
  | unaccent inner => (inner.read d row).map (·.mapText d.unaccent)

/-- What an expression reads is never null. -/
theorem FieldExpr.isNull_of_read {d : Dialect} {row : Row} {expr : FieldExpr} {v : Value}
    (h : expr.read d row = some v) : v.isNull = false := by
  induction expr generalizing v with
  | property ref =>
      have hv := (Option.filter_eq_some_iff.mp h).2
      simpa using hv
  | lower inner ih =>
      obtain ⟨w, hw, rfl⟩ := Option.map_eq_some_iff.mp h
      simpa using ih hw
  | unaccent inner ih =>
      obtain ⟨w, hw, rfl⟩ := Option.map_eq_some_iff.mp h
      simpa using ih hw

/-- A stored value compares with a literal as asked. -/
def CompareOp.holds (op : CompareOp) (stored literal : Value) : Bool :=
  match op with
  | eq => stored.agrees literal
  | _ => (stored.order literal).any op.accepts

/-- A stored value is one of the literals, or one of its members is. -/
def Value.isOneOf (values : List Value) : Value → Bool
  | list members => members.any fun m => values.any fun v => m.agrees v
  | stored => values.any fun v => stored.agrees v

def Value.isLike (wildcard : Char) (pattern : String) : Value → Bool
  | text s => Pattern.accepts wildcard pattern s
  | _ => false

namespace Predicate

mutual

/-- The predicate holds of the row. -/
def holds (d : Dialect) (row : Row) : Predicate → Bool
  | and children => allHold d row children
  | or children => anyHolds d row children
  | compare expr op value => (expr.read d row).any fun stored => op.holds stored value
  | like expr pattern => (expr.read d row).any (Value.isLike d.wildcard pattern)
  | oneOf expr values => (expr.read d row).any (Value.isOneOf values)
  | isNull expr => (expr.read d row).isNone
  | between expr lower upper =>
      (expr.read d row).any fun stored => stored.isWithin lower upper
  | within value lower upper =>
      (lower.read d row).any fun l => (upper.read d row).any fun u => value.isWithin l u

def allHold (d : Dialect) (row : Row) : List Predicate → Bool
  | [] => true
  | p :: ps => p.holds d row && allHold d row ps

def anyHolds (d : Dialect) (row : Row) : List Predicate → Bool
  | [] => false
  | p :: ps => p.holds d row || anyHolds d row ps

end

theorem allHold_eq_all (d : Dialect) (row : Row) (ps : List Predicate) :
    allHold d row ps = ps.all (holds d row) := by
  induction ps with
  | nil => rfl
  | cons p ps ih => simp [allHold, ih]

theorem anyHolds_eq_any (d : Dialect) (row : Row) (ps : List Predicate) :
    anyHolds d row ps = ps.any (holds d row) := by
  induction ps with
  | nil => rfl
  | cons p ps ih => simp [anyHolds, ih]

@[simp] theorem holds_and (d : Dialect) (row : Row) (ps : List Predicate) :
    (Predicate.and ps).holds d row = ps.all (holds d row) := by
  rw [holds, allHold_eq_all]

@[simp] theorem holds_or (d : Dialect) (row : Row) (ps : List Predicate) :
    (Predicate.or ps).holds d row = ps.any (holds d row) := by
  rw [holds, anyHolds_eq_any]

end Predicate

end Criteria
