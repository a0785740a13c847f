import Criteria.Dialect
import Criteria.Pattern
import Criteria.Predicate.Basic
import Criteria.Schema.Resolution
import Criteria.Text.Lowercase

/-!
# Construction of leaves

The predicate of one field follows from the kind of its value and then from the
operation declared on it. Null asks for a missing value, text is compared or
searched in one of several strictnesses, a list asks for membership, numbers and
dates are compared by order, and everything else by equality.
-/

namespace Criteria

/-- Why no predicate can be built for a value. -/
inductive BuildError where
  | unsupportedKind (kind : ValueKind) (context : String)
  | resolve (cause : ResolveError)
deriving DecidableEq, Repr

/-- Wording for a kind of value that has no meaning in a context. -/
def ValueKind.unsupportedMessage (kind : ValueKind) (context : String) : String :=
  kind.name ++ " values are not supported by " ++ context

def BuildError.message : BuildError → String
  | unsupportedKind kind context => kind.unsupportedMessage context
  | resolve cause => cause.message

namespace Predicate

def equals (expr : FieldExpr) (value : Value) : Predicate := .compare expr .eq value

/-- Comparison by order. Operations without an order ask for equality. -/
def ordered (expr : FieldExpr) (value : Value) (op : Operation) : Predicate :=
  .compare expr
    (match op with
      | .greaterThan => .gt
      | .greaterThanOrEqual => .gte
      | .lessThan => .lt
      | .lessThanOrEqual => .lte
      | _ => .eq)
    value

/-- The stored timestamp lies between the first instant of a day and its last
whole second. -/
def calendarDay (expr : FieldExpr) (d : Date) : Predicate :=
  .between expr (.timestamp d.midnight) (.timestamp d.lastSecond)

/-- Membership in a flat list of values. -/
def membership (expr : FieldExpr) (values : List Value) : Except BuildError Predicate :=
  match values.find? (·.kind = .set) with
  | some nested => .error (.unsupportedKind nested.kind "list membership")
  | none => .ok (.oneOf expr values)

/-- A stored property lies between two literals. -/
def betweenLiterals (ref : PropertyRef) (lower upper : Value) : Predicate :=
  .between (.property ref) lower upper

/-- A literal lies between two stored properties. Only numbers and dates have
such a range. -/
def betweenProperties (lower upper : PropertyRef) (value : Value) : Except BuildError Predicate :=
  if value.isNumeric || value.isTemporal then
    .ok (.within value (.property lower) (.property upper))
  else .error (.unsupportedKind value.kind "property range")

end Predicate

namespace Dialect

/-- The pattern that searches for a text in this dialect. -/
def searchPattern (d : Dialect) (query : String) : String := Pattern.ofQuery d.wildcard query

/-- Comparison with a text. Operations without a meaning for text ask for
equality. -/
def textPredicate (d : Dialect) (expr : FieldExpr) (text : String) (op : Operation) : Predicate :=
  match op with
  | .equalIgnoreCase => .equals expr.lower (.text (Text.lowercase text))
  | .like => .like expr (d.searchPattern text)
  | .likeIgnoreCase => .like expr.lower (d.searchPattern (Text.lowercase text))
  | .equalIgnoreCaseUnaccent =>
      .equals expr.lower.unaccent (.text (d.unaccent (Text.lowercase text)))
  | .likeIgnoreCaseUnaccent =>
      .like expr.lower.unaccent (d.searchPattern (d.unaccent (Text.lowercase text)))
  | _ => .equals expr (.text text)

/-- The predicate that compares a resolved property with a value. -/
def leaf (d : Dialect) (ref : PropertyRef) (value : Value) (op : Operation) :
    Except BuildError Predicate :=
  match value with
  | .null => .ok (.isNull (.property ref))
  | .text s => .ok (d.textPredicate (.property ref) s op)
  | .list values => Predicate.membership (.property ref) values
  | .date day =>
      .ok (if op = .dateTimeToDate then .calendarDay (.property ref) day
        else .ordered (.property ref) (.date day) op)
  | .timestamp t =>
      .ok (if op = .dateTimeToDate then .calendarDay (.property ref) t.date
        else .ordered (.property ref) (.timestamp t) op)
  | .int n => .ok (.ordered (.property ref) (.int n) op)
  | .uint n => .ok (.ordered (.property ref) (.uint n) op)
  | .float x => .ok (.ordered (.property ref) (.float x) op)
  | .bool b => .ok (.equals (.property ref) (.bool b))
  | .enum variant => .ok (.equals (.property ref) (.enum variant))

/-- The predicate that compares the property at the end of a chain of joins with
a value. -/
def joinedLeaf {ι : Type} (d : Dialect) (S : Schema ι) (start : ι) (path : PropertyPath)
    (value : Value) (op : Operation) : Except BuildError Predicate :=
  match S.resolveJoin start path with
  | .ok resolved => d.leaf resolved.reference value op
  | .error cause => .error (.resolve cause)

end Dialect

end Criteria
