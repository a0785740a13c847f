import Criteria.Value.Basic

/-!
# Order and agreement of values

Values have an order within their family: texts and variant names by code
points, truth values with false first, integers of either signedness exactly,
dates and timestamps by instants, and any two numbers of which one is a
floating-point number by the nearest floating-point numbers. Values of
different families, lists and null have none.

`Value.agrees` is equality under the same widening. Lists agree member by
member, and null agrees with nothing, not even with null.
-/

namespace Criteria.Value

/-- Order of two values of one family. -/
def order (a b : Value) : Option Ordering :=
  match a, b with
  | text s, text t => some (compare s t)
  | enum s, enum t => some (compare s t)
  | bool p, bool q => some (compare p q)
  | _, _ =>
    match a.integer?, b.integer? with
    | some m, some n => some (compare m n)
    | _, _ =>
      match a.instant?, b.instant? with
      | some m, some n => some (compare m n)
      | _, _ =>
        match a.double?, b.double? with
        | some x, some y => x.order y
        | _, _ => none

mutual

/-- Equality under the widening of `order`. -/
def agrees : Value → Value → Bool
  | null, _ => false
  | _, null => false
  | list xs, list ys => agreeAll xs ys
  | a, b => a.order b == some .eq

/-- Two lists of equal length agree member by member. -/
def agreeAll : List Value → List Value → Bool
  | [], [] => true
  | x :: xs, y :: ys => x.agrees y && agreeAll xs ys
  | _, _ => false

end

@[simp] theorem agrees_null_left (v : Value) : null.agrees v = false := by
  cases v <;> rfl

@[simp] theorem agrees_null_right (v : Value) : v.agrees null = false := by
  cases v <;> rfl

/-- A value is at or above the lower bound and at or below the upper one. -/
def isWithin (v lower upper : Value) : Bool :=
  (match v.order lower with
    | some .gt | some .eq => true
    | _ => false) &&
  (match v.order upper with
    | some .lt | some .eq => true
    | _ => false)

end Criteria.Value
