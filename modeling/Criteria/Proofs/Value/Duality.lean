import Criteria.Proofs.Value.Order

/-!
# Comparing the other way round

To compare two values the other way round is to swap the outcome, and values that have
no order have none either way. Agreement is symmetric, for lists member by member. So
it does not matter which of two values is the stored one (`Value.order_dual`): a
literal lies between two stored values where each of them stands to the literal as a
bound has to.
-/

namespace Criteria

theorem Double.order_swap (x y : Double) : y.order x = (x.order y).map Ordering.swap := by
  unfold order
  rw [Bool.or_comm]
  split
  · rfl
  · exact congrArg some Std.OrientedOrd.eq_swap

namespace Value

/-- To compare the other way round swaps the outcome. -/
theorem order_swap (a b : Value) : b.order a = (a.order b).map Ordering.swap := by
  cases a with
  | text s =>
      cases b with
      | text t => exact congrArg some (Std.OrientedOrd.eq_swap (a := t) (b := s))
      | _ => rfl
  | enum s =>
      cases b with
      | enum t => exact congrArg some (Std.OrientedOrd.eq_swap (a := t) (b := s))
      | _ => rfl
  | bool p =>
      cases b with
      | bool q => exact congrArg some (Std.OrientedOrd.eq_swap (a := q) (b := p))
      | _ => rfl
  | int m | uint m =>
      cases b with
      | int n | uint n => exact congrArg some Std.OrientedOrd.eq_swap
      | float y => exact Double.order_swap _ y
      | _ => rfl
  | float x =>
      cases b with
      | int _ | uint _ | float _ => exact Double.order_swap x _
      | _ => rfl
  | date d | timestamp d =>
      cases b with
      | date e | timestamp e => exact congrArg some Std.OrientedOrd.eq_swap
      | _ => rfl
  | null | list _ => cases b <;> rfl

theorem any_isGE_order (a b : Value) :
    (b.order a).any Ordering.isGE = (a.order b).any Ordering.isLE := by
  rw [order_swap]
  cases a.order b with
  | none => rfl
  | some o => cases o <;> rfl

/-- Agreement of a value that is no list is a level order. -/
theorem agrees_eq_order_left {a b : Value} (h : a.kind ≠ .set) :
    a.agrees b = (a.order b == some .eq) := by
  cases b with
  | list members =>
      cases a with
      | list xs => exact absurd rfl h
      | _ => rfl
  | _ => exact agrees_eq_order (by simp [kind])

theorem agrees_comm_of_order {a : Value} (h : a.kind ≠ .set) (b : Value) :
    a.agrees b = b.agrees a := by
  rw [agrees_eq_order_left h, agrees_eq_order h, order_swap a b]
  cases a.order b with
  | none => rfl
  | some o => cases o <;> rfl

mutual

/-- Agreement does not depend on which value comes first. -/
theorem agrees_comm : ∀ a b : Value, a.agrees b = b.agrees a
  | list xs, b => by
      cases b with
      | list ys => exact agreeAll_comm xs ys
      | _ => exact (agrees_comm_of_order (by simp [kind]) (list xs)).symm
  | null, b | text _, b | int _, b | uint _, b | float _, b | bool _, b | date _, b
  | timestamp _, b | enum _, b => agrees_comm_of_order (by rw [kind]; decide) b

theorem agreeAll_comm : ∀ xs ys : List Value, agreeAll xs ys = agreeAll ys xs
  | [], [] => rfl
  | [], _ :: _ => rfl
  | _ :: _, [] => rfl
  | x :: xs, y :: ys => by rw [agreeAll, agreeAll, agrees_comm x y, agreeAll_comm xs ys]

end

/-- The order of two values is that of the other way round, swapped, and they agree
either way or not at all. -/
theorem order_dual (a b : Value) :
    b.order a = (a.order b).map Ordering.swap ∧ a.agrees b = b.agrees a := by
  constructor
  · exact order_swap a b
  · exact agrees_comm a b

end Value

end Criteria
