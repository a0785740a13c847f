import Criteria.Value.Order

/-!
# Order and agreement against a literal

A literal that is no list agrees with a stored value exactly when the order puts
them level. For a text, a variant name or a truth value this is equality with a
stored value of the same family; a stored value of another family has no order
with them. Dates and timestamps are one family, ordered by instants.
-/

namespace Criteria.Value

/-- Agreement with a literal that is no list is a level order. -/
theorem agrees_eq_order {a b : Value} (h : b.kind ≠ .set) :
    a.agrees b = (a.order b == some .eq) := by
  cases b with
  | list members => exact absurd rfl h
  | null => cases a <;> rfl
  | _ => cases a <;> rfl

@[simp] theorem agrees_text_text (s t : String) : (text s).agrees (text t) = (s == t) := by
  have h : (text s).agrees (text t) = (compare s t == .eq) := rfl
  rw [h, Bool.eq_iff_iff, beq_iff_eq, beq_iff_eq]
  exact Std.LawfulEqOrd.compare_eq_iff_eq

@[simp] theorem agrees_enum_enum (s t : String) : (enum s).agrees (enum t) = (s == t) := by
  exact agrees_text_text s t

@[simp] theorem agrees_bool_bool (p q : Bool) : (bool p).agrees (bool q) = (p == q) := by
  cases p <;> cases q <;> rfl

/-- The two ends of a range are two comparisons. -/
theorem isWithin_eq_any (v lower upper : Value) :
    v.isWithin lower upper =
      ((v.order lower).any Ordering.isGE && (v.order upper).any Ordering.isLE) := by
  unfold isWithin
  congr 1
  · cases v.order lower with
    | none => rfl
    | some o => cases o <;> rfl
  · cases v.order upper with
    | none => rfl
    | some o => cases o <;> rfl

/-- Dates and timestamps compare as the instants that they stand for. -/
theorem order_of_instant {v w : Value} {i j : Int} (hv : v.instant? = some i)
    (hw : w.instant? = some j) : v.order w = some (compare i j) := by
  cases v with
  | date d | timestamp d =>
      cases w with
      | date e | timestamp e =>
          obtain rfl := Option.some.inj hv
          obtain rfl := Option.some.inj hw
          rfl
      | _ => cases hw
  | _ => cases hv

theorem isWithin_iff_of_instant {v lower upper : Value} {i j k : Int}
    (hv : v.instant? = some i) (hlower : lower.instant? = some j)
    (hupper : upper.instant? = some k) :
    v.isWithin lower upper = true ↔ j ≤ i ∧ i ≤ k := by
  rw [isWithin_eq_any, order_of_instant hv hlower, order_of_instant hv hupper, Bool.and_eq_true,
    Option.any_some, Option.any_some, Int.isGE_compare, Int.isLE_compare]

end Criteria.Value
