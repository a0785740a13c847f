/-!
# Operations and operators

An operation is the comparison declared on a filter field; where it has no
meaning for the value that the field holds, the comparison is equality. An
operator combines the constraints of sibling fields. Both are named twice: in
configuration files by their words joined with underscores, in declarations by
their words run together with capitals.
-/

namespace Criteria

/-- Comparison declared on a filter field. -/
inductive Operation where
  | equal
  | equalIgnoreCase
  | like
  | likeIgnoreCase
  | equalIgnoreCaseUnaccent
  | likeIgnoreCaseUnaccent
  | greaterThan
  | greaterThanOrEqual
  | lessThan
  | lessThanOrEqual
  /-- A timestamp falls on a calendar day. -/
  | dateTimeToDate
deriving DecidableEq, Repr, Inhabited

namespace Operation

def all : List Operation :=
  [equal, equalIgnoreCase, like, likeIgnoreCase, equalIgnoreCaseUnaccent, likeIgnoreCaseUnaccent,
   greaterThan, greaterThanOrEqual, lessThan, lessThanOrEqual, dateTimeToDate]

/-- Name in configuration files. -/
def key : Operation → String
  | equal => "equal"
  | equalIgnoreCase => "equal_ignore_case"
  | like => "like"
  | likeIgnoreCase => "like_ignore_case"
  | equalIgnoreCaseUnaccent => "equal_ignore_case_unaccent"
  | likeIgnoreCaseUnaccent => "like_ignore_case_unaccent"
  | greaterThan => "greater_than"
  | greaterThanOrEqual => "greater_than_or_equal"
  | lessThan => "less_than"
  | lessThanOrEqual => "less_than_or_equal"
  | dateTimeToDate => "date_time_to_date"

/-- Name in declarations. -/
def variant : Operation → String
  | equal => "Equal"
  | equalIgnoreCase => "EqualIgnoreCase"
  | like => "Like"
  | likeIgnoreCase => "LikeIgnoreCase"
  | equalIgnoreCaseUnaccent => "EqualIgnoreCaseUnaccent"
  | likeIgnoreCaseUnaccent => "LikeIgnoreCaseUnaccent"
  | greaterThan => "GreaterThan"
  | greaterThanOrEqual => "GreaterThanOrEqual"
  | lessThan => "LessThan"
  | lessThanOrEqual => "LessThanOrEqual"
  | dateTimeToDate => "DateTimeToDate"

def ofKey? (key : String) : Option Operation := all.find? (·.key == key)

def ofVariant? (variant : String) : Option Operation := all.find? (·.variant == variant)

theorem mem_all (op : Operation) : op ∈ all := by
  cases op <;> decide

@[simp] theorem ofKey?_key (op : Operation) : ofKey? op.key = some op := by
  cases op <;> rfl

@[simp] theorem ofVariant?_variant (op : Operation) : ofVariant? op.variant = some op := by
  cases op <;> rfl

end Operation

/-- Logical combination of siblings. -/
inductive Operator where
  | and
  | or
deriving DecidableEq, Repr, Inhabited

namespace Operator

def all : List Operator := [and, or]

/-- Name in configuration files. -/
def key : Operator → String
  | and => "and"
  | or => "or"

/-- Name in declarations. -/
def variant : Operator → String
  | and => "And"
  | or => "Or"

def ofKey? (key : String) : Option Operator := all.find? (·.key == key)

def ofVariant? (variant : String) : Option Operator := all.find? (·.variant == variant)

theorem mem_all (op : Operator) : op ∈ all := by
  cases op <;> decide

@[simp] theorem ofKey?_key (op : Operator) : ofKey? op.key = some op := by
  cases op <;> rfl

@[simp] theorem ofVariant?_variant (op : Operator) : ofVariant? op.variant = some op := by
  cases op <;> rfl

end Operator

end Criteria
