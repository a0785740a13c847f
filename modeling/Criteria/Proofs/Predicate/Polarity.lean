import Criteria.Proofs.Predicate.Truth

/-!
# Truth of a fold whose members change

A fold can only become true when a member becomes true, and only false when a
member becomes false, whatever the operator. The loss of a member is another
matter: what is left of a conjunction can only become true by it, and what is left
of a disjunction only false.

`Operator.Toward` says on which side of an operator a truth value stays, the side
of a conjunction being truth.
-/

namespace Criteria.Operator

/-- A truth value changes towards the side of the operator, if at all. -/
def Toward (o : Operator) (before after : Bool) : Prop :=
  match o with
  | and => before = true → after = true
  | or => after = true → before = true

@[simp] theorem toward_refl (o : Operator) (b : Bool) : o.Toward b b := by
  cases o <;> exact id

/-- What becomes of a member under `op`: it stays, it is lost where `op` is the
operator `o`, or its truth changes towards the side of `o`. -/
inductive Change (op o : Operator) : Option Bool → Option Bool → Prop
  | same (member : Option Bool) : Change op o member member
  | lost (x : Bool) (hop : op = o) : Change op o (some x) none
  | moved {x y : Bool} (h : o.Toward x y) : Change op o (some x) (some y)

theorem toward_and {o : Operator} {x y u v : Bool} (hleft : o.Toward x y)
    (hright : o.Toward u v) : o.Toward (x && u) (y && v) := by
  cases o with
  | and | or =>
      intro h
      obtain ⟨hl, hr⟩ := (Bool.and_eq_true _ _).mp h
      exact (Bool.and_eq_true _ _).mpr ⟨hleft hl, hright hr⟩

theorem toward_or {o : Operator} {x y u v : Bool} (hleft : o.Toward x y)
    (hright : o.Toward u v) : o.Toward (x || u) (y || v) := by
  cases o with
  | and | or =>
      intro h
      rcases (Bool.or_eq_true _ _).mp h with hl | hr
      · exact (Bool.or_eq_true _ _).mpr (Or.inl (hleft hl))
      · exact (Bool.or_eq_true _ _).mpr (Or.inr (hright hr))

theorem toward_value_cons {op o : Operator} {x y : Bool} {xs ys : List Bool}
    (hhead : o.Toward x y) (htail : o.Toward (op.value xs) (op.value ys)) :
    o.Toward (op.value (x :: xs)) (op.value (y :: ys)) := by
  cases op with
  | and => exact toward_and hhead htail
  | or => exact toward_or hhead htail

/-- A member that is lost takes a fold towards the side of its operator. -/
theorem toward_value_of_lost {o : Operator} {x : Bool} {xs ys : List Bool}
    (htail : o.Toward (o.value xs) (o.value ys)) :
    o.Toward (o.value (x :: xs)) (o.value ys) := by
  cases o with
  | and =>
      intro h
      have hxs : and.value xs = true := ((Bool.and_eq_true _ _).mp h).2
      exact htail hxs
  | or =>
      intro h
      exact (Bool.or_eq_true _ _).mpr (Or.inr (htail h))

/-- A fold goes where its members go. -/
theorem toward_value_filterMap {α : Type} {op o : Operator} {before after : α → Option Bool}
    {as : List α} (h : ∀ a ∈ as, op.Change o (before a) (after a)) :
    o.Toward (op.value (as.filterMap before)) (op.value (as.filterMap after)) := by
  induction as with
  | nil => exact toward_refl o _
  | cons a as ih =>
      have hhead := h a List.mem_cons_self
      have htail := ih fun b hb => h b (List.mem_cons_of_mem a hb)
      rw [List.filterMap_cons, List.filterMap_cons]
      -- Only what becomes of the member counts from here on, not which one it is.
      generalize before a = u at hhead
      generalize after a = v at hhead
      cases hhead with
      | same =>
          cases u with
          | none => exact htail
          | some x => exact toward_value_cons (toward_refl o x) htail
      | lost x hop =>
          subst hop
          exact toward_value_of_lost htail
      | moved hxy => exact toward_value_cons hxy htail

/-- A nested fold that may be lost as a whole, by `op` around it. -/
theorem change_settle {op inner o : Operator} {xs ys : List Bool} (hgain : xs = [] → ys = [])
    (hlost : xs ≠ [] → ys = [] → op = o)
    (hmoved : ys ≠ [] → o.Toward (inner.value xs) (inner.value ys)) :
    op.Change o (inner.settle xs) (inner.settle ys) := by
  by_cases hys : ys = []
  · rw [(settle_eq_none_iff inner).mpr hys]
    by_cases hxs : xs = []
    · rw [(settle_eq_none_iff inner).mpr hxs]
      exact .same none
    · rw [settle_of_ne_nil inner hxs]
      exact .lost _ (hlost hxs hys)
  · have hxs : xs ≠ [] := fun hxs => hys (hgain hxs)
    rw [settle_of_ne_nil inner hxs, settle_of_ne_nil inner hys]
    exact .moved (hmoved hys)

end Criteria.Operator
