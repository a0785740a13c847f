import Criteria.Predicate.Construction
import Criteria.Proofs.Predicate.Tree

/-!
# Leaves that are built

`Dialect.Builds` lists the leaves that can be built for a value, each with what
is known of the value then. Every one of them is a single node and reads the one
property it was built for, through the functions of `FieldExpr.IsStoredSide` at
most.
-/

namespace Criteria

/-- The stored sides in use: the property, the property in lower case, and the
latter without accents. -/
inductive FieldExpr.IsStoredSide (ref : PropertyRef) : FieldExpr → Prop
  | property : IsStoredSide ref (.property ref)
  | lower : IsStoredSide ref (.lower (.property ref))
  | unaccent : IsStoredSide ref (.unaccent (.lower (.property ref)))

theorem FieldExpr.IsStoredSide.propertyRef_eq {ref : PropertyRef} {expr : FieldExpr}
    (h : expr.IsStoredSide ref) : expr.propertyRef = ref := by
  cases h <;> rfl

namespace Dialect

/-- The leaves that are built for a value in one property. -/
inductive Builds (d : Dialect) (ref : PropertyRef) : Value → Predicate → Prop
  | missing : Builds d ref .null (.isNull (.property ref))
  | equals {v w : Value} {expr : FieldExpr} (hexpr : expr.IsStoredSide ref)
      (hnull : w.kind ≠ .null) (hset : w.kind ≠ .set) : Builds d ref v (.equals expr w)
  | search {v : Value} {expr : FieldExpr} (query : String) (hexpr : expr.IsStoredSide ref) :
      Builds d ref v (.like expr (d.searchPattern query))
  | members {values : List Value} (hflat : ∀ v ∈ values, v.kind ≠ .set) :
      Builds d ref (.list values) (.oneOf (.property ref) values)
  | ordered {v : Value} (op : Operation) (hkind : (v.isNumeric || v.isTemporal) = true) :
      Builds d ref v (.ordered (.property ref) v op)
  | day {v : Value} (day : Date) : Builds d ref v (.calendarDay (.property ref) day)

variable {d : Dialect} {ref : PropertyRef}

theorem builds_textPredicate (s : String) (op : Operation) :
    d.Builds ref (.text s) (d.textPredicate (.property ref) s op) := by
  have hequals (t : String) {expr : FieldExpr} (hexpr : expr.IsStoredSide ref) :
      d.Builds ref (.text s) (.equals expr (.text t)) :=
    .equals hexpr (by simp [Value.kind]) (by simp [Value.kind])
  cases op with
  | equalIgnoreCase => exact hequals _ .lower
  | equalIgnoreCaseUnaccent => exact hequals _ .unaccent
  | like => exact .search _ .property
  | likeIgnoreCase => exact .search _ .lower
  | likeIgnoreCaseUnaccent => exact .search _ .unaccent
  | _ => exact hequals s .property

theorem builds_membership {values : List Value} {p : Predicate}
    (h : Predicate.membership (.property ref) values = .ok p) :
    d.Builds ref (.list values) p := by
  unfold Predicate.membership at h
  split at h
  · cases h
  · rename_i hfind
    cases h
    refine .members fun v hv hset => ?_
    have hnone := List.find?_eq_none.mp hfind v hv
    exact hnone (by simpa using hset)

/-- A date or timestamp is compared by its day or by its place in the order. -/
theorem builds_temporal {v : Value} (op : Operation) (day : Date) (h : v.isTemporal = true) :
    d.Builds ref v
      (if op = .dateTimeToDate then .calendarDay (.property ref) day
        else .ordered (.property ref) v op) := by
  by_cases hop : op = .dateTimeToDate
  · rw [if_pos hop]
    exact .day day
  · rw [if_neg hop]
    exact .ordered op (by simp [h])

/-- A leaf that is built is one of the list. -/
theorem builds_of_leaf {v : Value} {op : Operation} {p : Predicate}
    (h : d.leaf ref v op = .ok p) : d.Builds ref v p := by
  cases v with
  | null => cases h; exact .missing
  | text s => cases h; exact builds_textPredicate s op
  | list values => exact builds_membership h
  | date day => cases h; exact builds_temporal op day rfl
  | timestamp t => cases h; exact builds_temporal op t.date rfl
  | int n => cases h; exact .ordered op rfl
  | uint n => cases h; exact .ordered op rfl
  | float x => cases h; exact .ordered op rfl
  | bool b => cases h; exact .equals .property (by simp [Value.kind]) (by simp [Value.kind])
  | enum s => cases h; exact .equals .property (by simp [Value.kind]) (by simp [Value.kind])

theorem Builds.nodes_eq {v : Value} {p : Predicate} (h : d.Builds ref v p) : p.nodes = [p] := by
  cases h <;> rfl

theorem Builds.ownRefs_eq {v : Value} {p : Predicate} (h : d.Builds ref v p) :
    p.ownRefs = [ref] := by
  cases h with
  | equals hexpr | search _ hexpr => exact congrArg ([·]) hexpr.propertyRef_eq
  | _ => rfl

end Dialect

end Criteria
