import Criteria.Predicate.Construction
import Criteria.Predicate.Evaluation
import Criteria.Proofs.Value.Order

/-!
# What a literal asks of a row

`Dialect.answer?` says for a literal, an operation and a property whether a row
meets the literal, straight from the stored value and without any predicate. A
list that holds a list asks for nothing that could be answered. The main
statement is `map_holds_leaf`: the predicate built for a literal is true of
exactly the rows that meet it, and there is none where there is no answer.
-/

namespace Criteria

/-- How a stored value has to stand to an ordered literal. Operations without an
order ask for a level one. -/
def Operation.asks (op : Operation) (o : Ordering) : Bool :=
  match op with
  | .greaterThan => o.isGT
  | .greaterThanOrEqual => o.isGE
  | .lessThan => o.isLT
  | .lessThanOrEqual => o.isLE
  | _ => o.isEq

/-- The value lies between the first instant of a day and its last whole second. -/
def Value.fallsOn (day : Date) (v : Value) : Bool :=
  (v.order (.timestamp day.midnight)).any Ordering.isGE &&
    (v.order (.timestamp day.lastSecond)).any Ordering.isLE

namespace Dialect

/-- A stored text meets a literal text. Where case is ignored both sides are
lower-cased, and accents are removed from lower-case texts only. -/
def textMeets (d : Dialect) (op : Operation) (literal stored : String) : Bool :=
  match op with
  | .equalIgnoreCase => Text.lowercase stored == Text.lowercase literal
  | .equalIgnoreCaseUnaccent =>
      d.unaccent (Text.lowercase stored) == d.unaccent (Text.lowercase literal)
  | .like => Pattern.accepts d.wildcard (Pattern.ofQuery d.wildcard literal) stored
  | .likeIgnoreCase =>
      Pattern.accepts d.wildcard (Pattern.ofQuery d.wildcard (Text.lowercase literal))
        (Text.lowercase stored)
  | .likeIgnoreCaseUnaccent =>
      Pattern.accepts d.wildcard
        (Pattern.ofQuery d.wildcard (d.unaccent (Text.lowercase literal)))
        (d.unaccent (Text.lowercase stored))
  | _ => stored == literal

/-- A stored value meets a literal. Null is met by no value. -/
def meets (d : Dialect) (op : Operation) (literal stored : Value) : Bool :=
  match literal, stored with
  | .text s, .text t => d.textMeets op s t
  | .bool p, .bool q => q == p
  | .enum s, .enum t => t == s
  | .list literals, .list members => members.any fun m => literals.any m.agrees
  | .list literals, v => literals.any v.agrees
  | .date day, v =>
      if op = .dateTimeToDate then v.fallsOn day else (v.order (.date day)).any op.asks
  | .timestamp t, v =>
      if op = .dateTimeToDate then v.fallsOn t.date else (v.order (.timestamp t)).any op.asks
  | .int n, v => (v.order (.int n)).any op.asks
  | .uint n, v => (v.order (.uint n)).any op.asks
  | .float x, v => (v.order (.float x)).any op.asks
  | _, _ => false

/-- Whether a row meets a literal in one of its properties. Null asks for a
missing value, and a list of lists has no answer. -/
def answer? (d : Dialect) (row : Row) (ref : PropertyRef) (op : Operation) :
    Value → Option Bool
  | .null => some (row.get ref).isNone
  | .list literals =>
      if literals.any (·.kind = .set) then none
      else some ((row.get ref).any (d.meets op (.list literals)))
  | literal => some ((row.get ref).any (d.meets op literal))

variable (d : Dialect) (row : Row) (ref : PropertyRef)

/-- The predicate of a text is true of the rows that meet the text. -/
theorem holds_textPredicate (expr : FieldExpr) (op : Operation) (s : String) :
    (d.textPredicate expr s op).holds d row = (expr.read d row).any (d.meets op (.text s)) := by
  cases h : expr.read d row with
  | none =>
      cases op <;> simp [textPredicate, Predicate.equals, Predicate.holds, FieldExpr.read, h]
  | some v =>
      cases v with
      | text t =>
          cases op <;>
            simp [textPredicate, Predicate.equals, Predicate.holds, FieldExpr.read, h, meets,
              textMeets, searchPattern, Value.mapText, CompareOp.holds, Value.isLike]
      | _ =>
          -- No other value has an order with a text or matches a pattern.
          cases op <;>
            simp only [textPredicate, Predicate.equals, Predicate.holds, FieldExpr.read, h,
              Option.map_some, Option.any_some] <;>
            rfl

/-- A comparison by order is true of the rows that stand to the literal as asked. -/
theorem holds_ordered (op : Operation) {v : Value} (h : v.kind ≠ .set) :
    (Predicate.ordered (.property ref) v op).holds d row =
      (row.get ref).any fun stored => (stored.order v).any op.asks := by
  simp only [Predicate.ordered, Predicate.holds, FieldExpr.read]
  congr 1
  funext stored
  have hlevel : stored.agrees v = (stored.order v).any Ordering.isEq := by
    rw [Value.agrees_eq_order h]
    cases stored.order v with
    | none => rfl
    | some o => cases o <;> rfl
  cases op with
  | greaterThan | greaterThanOrEqual | lessThan | lessThanOrEqual =>
      change Option.any _ _ = Option.any _ _
      congr 1
      funext o
      cases o <;> rfl
  | _ => exact hlevel

/-- The predicate of a calendar day is true of the values that fall on it. -/
theorem holds_calendarDay (day : Date) :
    (Predicate.calendarDay (.property ref) day).holds d row =
      (row.get ref).any (Value.fallsOn day) := by
  simp only [Predicate.calendarDay, Predicate.holds, FieldExpr.read]
  congr 1
  funext stored
  exact stored.isWithin_eq_any _ _

/-- A date or timestamp asks for its whole day under the one operation and for its
place in the order under all others. -/
theorem holds_temporal (op : Operation) {v : Value} (h : v.kind ≠ .set) (day : Date) :
    (if op = .dateTimeToDate then Predicate.calendarDay (.property ref) day
      else Predicate.ordered (.property ref) v op).holds d row =
      (row.get ref).any fun stored =>
        if op = .dateTimeToDate then stored.fallsOn day else (stored.order v).any op.asks := by
  by_cases hop : op = .dateTimeToDate
  · simp only [if_pos hop]
    exact d.holds_calendarDay row ref day
  · simp only [if_neg hop]
    exact d.holds_ordered row ref op h

/-- Membership in a flat list is true of the rows that meet the list. -/
theorem holds_oneOf (op : Operation) (literals : List Value) :
    (Predicate.oneOf (.property ref) literals).holds d row =
      (row.get ref).any (d.meets op (.list literals)) := by
  simp only [Predicate.holds, FieldExpr.read]
  congr 1
  funext stored
  cases stored <;> rfl

/-- Equality with a truth value is true of the rows that hold it. -/
theorem holds_equals_bool (op : Operation) (b : Bool) :
    (Predicate.equals (.property ref) (.bool b)).holds d row =
      (row.get ref).any (d.meets op (.bool b)) := by
  simp only [Predicate.equals, Predicate.holds, FieldExpr.read]
  congr 1
  funext stored
  cases stored with
  | bool c => exact Value.agrees_bool_bool c b
  | _ => rfl

/-- Equality with a variant is true of the rows that hold it. -/
theorem holds_equals_enum (op : Operation) (s : String) :
    (Predicate.equals (.property ref) (.enum s)).holds d row =
      (row.get ref).any (d.meets op (.enum s)) := by
  simp only [Predicate.equals, Predicate.holds, FieldExpr.read]
  congr 1
  funext stored
  cases stored with
  | enum t => exact Value.agrees_enum_enum t s
  | _ => rfl

/-- A list has a membership predicate unless it holds a list. -/
theorem toOption_membership (expr : FieldExpr) (literals : List Value) :
    (Predicate.membership expr literals).toOption =
      if literals.any (·.kind = .set) then none else some (.oneOf expr literals) := by
  unfold Predicate.membership
  cases hfind : literals.find? (·.kind = .set) with
  | none =>
      have hflat : ¬ literals.any (·.kind = .set) = true := by
        simpa using hfind
      rw [if_neg hflat]
      rfl
  | some nested =>
      have hset := List.find?_some hfind
      have hnested : literals.any (·.kind = .set) = true :=
        List.any_eq_true.mpr ⟨nested, List.mem_of_find?_eq_some hfind, hset⟩
      rw [if_pos hnested]
      rfl

/-- The predicate built for a literal is true of the rows that meet it, and there
is none for a literal without an answer. -/
theorem map_holds_leaf (op : Operation) (v : Value) :
    (d.leaf ref v op).toOption.map (Predicate.holds d row) = d.answer? row ref op v := by
  cases v with
  | null => rfl
  | text s => exact congrArg some (d.holds_textPredicate row (.property ref) op s)
  | list literals =>
      rw [leaf, toOption_membership, answer?]
      split
      · rfl
      · exact congrArg some (d.holds_oneOf row ref op literals)
  | date day =>
      exact congrArg some (d.holds_temporal row ref op (by simp [Value.kind]) day)
  | timestamp t =>
      exact congrArg some (d.holds_temporal row ref op (by simp [Value.kind]) t.date)
  | int n => exact congrArg some (d.holds_ordered row ref op (by simp [Value.kind]))
  | uint n => exact congrArg some (d.holds_ordered row ref op (by simp [Value.kind]))
  | float x => exact congrArg some (d.holds_ordered row ref op (by simp [Value.kind]))
  | bool b => exact congrArg some (d.holds_equals_bool row ref op b)
  | enum s => exact congrArg some (d.holds_equals_enum row ref op s)

end Dialect

end Criteria
