import Criteria.Proofs.Compilation.Run
import Criteria.Proofs.Compilation.Visit
import Mathlib.Data.List.Basic

/-!
# What becomes of every field

A field that is met either makes a predicate, fails for a reason, or is left
alone. `Compiler.failure?` tells the reason of a failure from the declaration, the
input and the schema, without compiling anything, and `FieldMetadata.leavesAlone`
says which inputs are no constraint. The skip records of a compiled filter are the
failures of the fields that are met, one for each and in the order of the visits, and
its predicates are those of its fields (`Session.diagnostics_add_fresh`).
-/

namespace Criteria

/-- The error of an outcome that has one. -/
def errorOf? {ε α : Type} : Except ε α → Option ε
  | .error e => some e
  | .ok _ => none

section Outcome

variable {ε ε' α β : Type}

/-- Steps fail in order; what the later one fails for is the same after every
success of the earlier one. -/
theorem errorOf?_bind {x : Except ε α} {f : α → Except ε β} {failure : Option ε}
    (h : ∀ a, errorOf? (f a) = failure) : errorOf? (x >>= f) = (errorOf? x).or failure := by
  cases x with
  | error e => rfl
  | ok a => exact h a

theorem errorOf?_mapError (f : ε → ε') (x : Except ε α) :
    errorOf? (x.mapError f) = (errorOf? x).map f := by
  cases x <;> rfl

end Outcome

/-- The shape of input that a role asks for. -/
def FieldRole.expects : FieldRole → String
  | .group _ => "group"
  | .period _ => "period"
  | _ => "value"

/-- The role makes nothing of a missing input of this shape, even where null is
asked for. -/
def FieldRole.passesOver : FieldRole → FieldInput → Bool
  | .between _, _ => true
  | .group _, .group _ => true
  | .period _, .period _ => true
  | _, _ => false

/-- Inputs that are no constraint: an empty list, and a missing one unless null is
asked for and the role can make something of it. -/
def FieldMetadata.leavesAlone (m : FieldMetadata) (input : FieldInput) : Bool :=
  input.isEmptyList || (input.isNull && (!m.nullable || m.role.passesOver input))

def Visit.leavesAlone (v : Visit) : Bool :=
  match v.filter.read v.field.name with
  | .error _ => false
  | .ok input => v.field.metadata.leavesAlone input

/-- Why a list cannot be asked for by membership. -/
def Value.membershipFailure? : Value → Option SkipReason
  | list members =>
      if members.any (·.kind = .set) then some (.unsupportedKind .set "list membership") else none
  | _ => none

/-- Why a value cannot lie in a range. -/
def Value.rangeFailure? (v : Value) : Option SkipReason :=
  if v.isNumeric || v.isTemporal then none else some (.unsupportedKind v.kind "property range")

namespace Compiler

variable {ι : Type} (T : Compiler ι)

/-- Why a path cannot be navigated from the root. -/
def unnavigable? (text : String) : Option SkipReason :=
  (errorOf? (PropertyPath.parse text >>= T.schema.resolve T.root)).map .propertyNotFound

/-- Why the segments of a path cannot be joined from the root. -/
def unjoinable? (text : String) : Option SkipReason :=
  (errorOf? (PropertyPath.parse text >>= T.schema.resolveJoin T.root)).map .propertyNotFound

/-- Why a requested period fails. It has to be complete and in order before the
stored one is looked up. -/
def periodFailure? (bounds : PropertyPair) (period : DatePeriod) : Option SkipReason :=
  match period.start, period.stop with
  | some start, some stop =>
      if compare start stop = .gt then some (.invalidPeriod start stop)
      else (T.unnavigable? bounds.lower).or (T.unnavigable? bounds.upper)
  | _, _ => some .incompletePeriod

/-- Why an input fails that is not left alone: for its shape, or else for the first
cause that its role knows. -/
def inputFailure? (levels : Nat) (m : FieldMetadata) (input : FieldInput) : Option SkipReason :=
  if input.shape ≠ m.role.expects then some (.unexpectedInput m.role.expects input.shape)
  else
    match m.role, input with
    | .leaf, .value v => (T.unnavigable? m.property).or v.membershipFailure?
    | .join, .value v => (T.unjoinable? m.property).or v.membershipFailure?
    | .between bounds, .value v =>
        ((T.unnavigable? bounds.lower).or (T.unnavigable? bounds.upper)).or v.rangeFailure?
    | .period bounds, .period (some period) => T.periodFailure? bounds period
    | .group _, .group (some _) =>
        if levels = 0 then some (.groupTooDeep T.settings.maxGroupDepth) else none
    | _, _ => none

/-- Why a field fails where compilation meets it. -/
def failure? (v : Visit) : Option SkipReason :=
  match v.filter.read v.field.name with
  | .error cause => some (.accessorFailure cause)
  | .ok input =>
      if v.field.metadata.leavesAlone input then none
      else T.inputFailure? v.levels v.field.metadata input

/-- The record of a field that fails. -/
def record? (v : Visit) : Option FieldSkip := (T.failure? v).map fun reason => ⟨v.name, reason⟩

/-- An outcome is a predicate, unless there is a failure. -/
def Settles (failure : Option SkipReason) (outcome : Except SkipReason (Option Predicate)) :
    Prop :=
  match failure with
  | none => ∃ p, outcome = .ok (some p)
  | some reason => outcome = .error reason

theorem settles_map_some (x : Except SkipReason Predicate) :
    Settles (errorOf? x) (x.map some) := by
  cases x with
  | error reason => rfl
  | ok p => exact ⟨p, rfl⟩

theorem errorOf?_resolveProperty (text : String) :
    errorOf? (T.resolveProperty text) = T.unnavigable? text := by
  rw [unnavigable?, resolveProperty, parsePath]
  cases PropertyPath.parse text with
  | error cause => rfl
  | ok path =>
      change errorOf? ((T.schema.resolve T.root path).mapError _ >>= _) =
        (errorOf? (T.schema.resolve T.root path)).map _
      cases T.schema.resolve T.root path <;> rfl

/-- A leaf is built of every value that is no list of lists. -/
theorem errorOf?_leaf (d : Dialect) (ref : PropertyRef) (v : Value) (op : Operation) :
    errorOf? ((d.leaf ref v op).mapError .ofBuildError) = v.membershipFailure? := by
  cases v with
  | list members =>
      rw [Dialect.leaf, errorOf?_mapError, Value.membershipFailure?, Predicate.membership]
      cases hfind : members.find? (·.kind = .set) with
      | none =>
          have hflat : ¬ members.any (·.kind = .set) = true := by
            simpa using hfind
          rw [if_neg hflat]
          rfl
      | some nested =>
          have hset : nested.kind = .set := by
            simpa using List.find?_some hfind
          have hnested : members.any (·.kind = .set) = true :=
            List.any_eq_true.mpr ⟨nested, List.mem_of_find?_eq_some hfind, by simp [hset]⟩
          rw [if_pos hnested]
          simp only [errorOf?, Option.map_some, SkipReason.ofBuildError, hset]
  | _ => rfl

theorem errorOf?_leafPredicate (m : FieldMetadata) (v : Value) :
    errorOf? (T.leafPredicate m (.value v)) =
      (T.unnavigable? m.property).or v.membershipFailure? := by
  change errorOf? (T.resolveProperty m.property >>= fun ref => _) = _
  rw [← errorOf?_resolveProperty]
  exact errorOf?_bind fun ref => errorOf?_leaf T.dialect ref v m.operation

theorem errorOf?_joinPredicate (m : FieldMetadata) (v : Value) :
    errorOf? (T.joinPredicate m (.value v)) =
      (T.unjoinable? m.property).or v.membershipFailure? := by
  change errorOf? (parsePath m.property >>= fun path => _) = _
  rw [unjoinable?, parsePath]
  cases PropertyPath.parse m.property with
  | error cause => rfl
  | ok path =>
      change errorOf? ((T.dialect.joinedLeaf T.schema T.root path v m.operation).mapError _) =
        ((errorOf? (T.schema.resolveJoin T.root path)).map _).or _
      rw [Dialect.joinedLeaf]
      cases T.schema.resolveJoin T.root path with
      | error cause => rfl
      | ok resolved => exact errorOf?_leaf T.dialect resolved.reference v m.operation

theorem errorOf?_rangePredicate (bounds : PropertyPair) (v : Value) :
    errorOf? (T.rangePredicate bounds (.value v)) =
      ((T.unnavigable? bounds.lower).or (T.unnavigable? bounds.upper)).or v.rangeFailure? := by
  have hkind (lower upper : PropertyRef) :
      errorOf? ((Predicate.betweenProperties lower upper v).mapError .ofBuildError) =
        v.rangeFailure? := by
    unfold Predicate.betweenProperties Value.rangeFailure?
    split <;> rfl
  change errorOf? (T.resolveProperty bounds.lower >>= fun lower => _) = _
  rw [Option.or_assoc, ← errorOf?_resolveProperty, ← errorOf?_resolveProperty]
  exact errorOf?_bind fun lower => errorOf?_bind fun upper => hkind lower upper

theorem errorOf?_periodPredicate (bounds : PropertyPair) (period : DatePeriod) :
    errorOf? (T.periodPredicate bounds period) = T.periodFailure? bounds period := by
  obtain ⟨_ | start, _ | stop⟩ := period
  · rfl
  · rfl
  · rfl
  · simp only [periodPredicate, periodFailure?]
    split
    · rfl
    · rw [← errorOf?_resolveProperty, ← errorOf?_resolveProperty,
        ← Option.or_none (o := errorOf? (T.resolveProperty bounds.upper))]
      exact errorOf?_bind fun lower => errorOf?_bind fun upper => rfl

theorem leavesAlone_eq (m : FieldMetadata) (input : FieldInput) :
    m.leavesAlone input = (isUnset m input || (input.isNull && m.role.passesOver input)) := by
  rw [FieldMetadata.leavesAlone, isUnset, Bool.and_or_distrib_left, Bool.or_assoc]

/-- An input that is not left alone and holds no group makes a predicate or fails
for the reason that was told. -/
theorem settles_constraint {m : FieldMetadata} {input : FieldInput} (levels : Nat)
    (halone : m.leavesAlone input = false)
    (hgroup : ∀ operator g, m.role = .group operator → input ≠ .group (some g)) :
    Settles (T.inputFailure? levels m input) (T.constraint m input) := by
  rw [leavesAlone_eq, Bool.or_eq_false_iff] at halone
  obtain ⟨-, hpast⟩ := halone
  cases hrole : m.role with
  | leaf =>
      unfold constraint inputFailure?
      rw [hrole]
      cases input with
      | value v =>
          have h := settles_map_some (T.leafPredicate m (.value v))
          rw [errorOf?_leafPredicate] at h
          exact h
      | _ => rfl
  | join =>
      unfold constraint inputFailure?
      rw [hrole]
      cases input with
      | value v =>
          have h := settles_map_some (T.joinPredicate m (.value v))
          rw [errorOf?_joinPredicate] at h
          exact h
      | _ => rfl
  | between bounds =>
      have hnull : ¬ input.isNull = true := by
        intro hnull
        rw [hnull, hrole] at hpast
        cases hpast
      unfold constraint inputFailure?
      rw [hrole]
      simp only [if_neg hnull]
      cases input with
      | value v =>
          have h := settles_map_some (T.rangePredicate bounds (.value v))
          rw [errorOf?_rangePredicate] at h
          exact h
      | _ => rfl
  | group operator =>
      unfold constraint inputFailure?
      rw [hrole]
      cases input with
      | group content =>
          cases content with
          | none => rw [hrole] at hpast; cases hpast
          | some g => exact absurd rfl (hgroup operator g hrole)
      | _ => rfl
  | period bounds =>
      unfold constraint inputFailure?
      rw [hrole]
      cases input with
      | period content =>
          cases content with
          | none => rw [hrole] at hpast; cases hpast
          | some period =>
              have h := settles_map_some (T.periodPredicate bounds period)
              rw [errorOf?_periodPredicate] at h
              exact h
      | _ => rfl

/-- An input that is left alone makes nothing and fails for nothing. -/
theorem constraint_of_leavesAlone {m : FieldMetadata} {input : FieldInput}
    (hset : isUnset m input = false) (halone : m.leavesAlone input = true) :
    T.constraint m input = .ok none := by
  rw [leavesAlone_eq, hset, Bool.false_or, Bool.and_eq_true] at halone
  obtain ⟨hnull, hrole⟩ := halone
  cases hm : m.role with
  | between bounds => simp only [constraint, hm, if_pos hnull]
  | group operator =>
      rw [hm] at hrole
      simp only [constraint, hm]
      cases input with
      | group content => rfl
      | _ => cases hrole
  | period bounds =>
      rw [hm] at hrole
      simp only [constraint, hm]
      cases input with
      | period content =>
          cases content with
          | none => rfl
          | some period => cases hnull
      | _ => cases hrole
  | _ => rw [hm] at hrole; cases hrole

/-- A group that holds a filter fails where no level is left, and is never left
alone. -/
theorem failure?_of_nested? {v : Visit} {operator : Operator} {g : Filter}
    (h : v.filter.nested? v.field = some (operator, g)) :
    v.leavesAlone = false ∧
      T.failure? v =
        if v.levels = 0 then some (.groupTooDeep T.settings.maxGroupDepth) else none := by
  obtain ⟨hrole, hread⟩ := Filter.nested?_eq_some_iff.mp h
  have hmetadata : v.field.metadata.role = .group operator := hrole
  have halone : v.field.metadata.leavesAlone (.group (some g)) = false := rfl
  constructor
  · rw [Visit.leavesAlone, hread]
    exact halone
  · rw [failure?, hread]
    simp only [halone]
    unfold inputFailure?
    rw [hmetadata]
    rfl

/-- What becomes of a field that is met and not followed: exactly one of a predicate,
a record and nothing. -/
inductive Accounts (v : Visit) : Prop
  | predicate (p : Predicate) (hvisit : T.visit v = ⟨[p], []⟩) (hfailure : T.failure? v = none)
      (halone : v.leavesAlone = false)
  | record (reason : SkipReason) (hvisit : T.visit v = ⟨[], [⟨v.field.name, reason⟩]⟩)
      (hfailure : T.failure? v = some reason) (halone : v.leavesAlone = false)
  | silence (hvisit : T.visit v = .empty) (hfailure : T.failure? v = none)
      (halone : v.leavesAlone = true)

variable {T}

theorem accounts_of_read {v : Visit} {input : FieldInput}
    (hread : v.filter.read v.field.name = .ok input)
    (hnested : v.filter.nested? v.field = none) (hcollect : T.settings.collectDiagnostics = true) :
    T.Accounts v := by
  have hvisit := T.compileField_of_read (T.follow v.levels) hread hnested
  have hfailure : T.failure? v = if v.field.metadata.leavesAlone input then none
      else T.inputFailure? v.levels v.field.metadata input := by
    rw [failure?, hread]
  have halone : v.leavesAlone = v.field.metadata.leavesAlone input := by
    rw [Visit.leavesAlone, hread]
  have hgroup := Filter.ne_group_of_nested?_eq_none hread hnested
  cases hm : v.field.metadata.leavesAlone input with
  | true =>
      refine .silence ?_ (hfailure.trans (if_pos hm)) (halone.trans hm)
      cases hset : isUnset v.field.metadata input with
      | true => exact hvisit.trans (if_pos hset)
      | false =>
          rw [hset, constraint_of_leavesAlone T hset hm] at hvisit
          exact hvisit
  | false =>
      have hset : isUnset v.field.metadata input = false := by
        rw [leavesAlone_eq, Bool.or_eq_false_iff] at hm
        exact hm.1
      have hsettles := T.settles_constraint v.levels hm hgroup
      rw [hm, if_neg Bool.false_ne_true] at hfailure
      rw [hset, if_neg Bool.false_ne_true] at hvisit
      rw [← hfailure] at hsettles
      cases hreason : T.failure? v with
      | none =>
          rw [hreason] at hsettles
          obtain ⟨p, hp⟩ := hsettles
          rw [hp] at hvisit
          exact .predicate p hvisit hreason (halone.trans hm)
      | some reason =>
          rw [hreason] at hsettles
          have herror : T.constraint v.field.metadata input = .error reason := hsettles
          simp only [herror, skipped, if_pos hcollect] at hvisit
          exact .record reason hvisit hreason (halone.trans hm)

/-- A field that is not followed makes one predicate, one record, or nothing. -/
theorem accounts_of_follows?_eq_none {v : Visit} (hfollows : v.follows? = none)
    (hcollect : T.settings.collectDiagnostics = true) : T.Accounts v := by
  cases hnested : v.filter.nested? v.field with
  | some nested =>
      obtain ⟨operator, g⟩ := nested
      have hlevels : v.levels = 0 := by
        unfold Visit.follows? at hfollows
        split at hfollows
        · assumption
        · rw [hnested] at hfollows
          cases hfollows
      obtain ⟨halone, hfailure⟩ := T.failure?_of_nested? hnested
      have hvisit := T.compileField_of_nested? (T.follow v.levels) hnested
      rw [hlevels] at hvisit hfailure
      rw [follow, skipped, if_pos hcollect] at hvisit
      refine .record _ ?_ hfailure halone
      rw [visit, hlevels]
      exact hvisit
  | none =>
      cases hread : v.filter.read v.field.name with
      | ok input => exact accounts_of_read hread hnested hcollect
      | error cause =>
          refine .record (.accessorFailure cause) ?_ ?_ ?_
          · simp only [visit, compileField, hread, skipped, if_pos hcollect]
          · rw [failure?, hread]
          · rw [Visit.leavesAlone, hread]

theorem failure?_of_follows {v : Visit} {operator : Operator} {g : Filter}
    (h : v.follows? = some (operator, g)) : T.failure? v = none := by
  unfold Visit.follows? at h
  split at h
  · cases h
  · rename_i levels hlevels
    obtain ⟨-, hfailure⟩ := T.failure?_of_nested? h
    rw [hfailure, if_neg (by omega)]

/-- A followed group has the records of its fields, and the fold of their predicates. -/
theorem visit_skips_of_follows {v : Visit} {operator : Operator} {g : Filter}
    (h : v.follows? = some (operator, g)) :
    (T.visit v).skips =
      (v.children.flatMap fun w => (T.visit w).skips).map (·.under v.field.name) := by
  rw [T.visit_of_follows h, Contribution.folded, Contribution.skips_join, List.flatMap_map]

theorem visit_predicates_of_follows {v : Visit} {operator : Operator} {g : Filter}
    (h : v.follows? = some (operator, g)) :
    (T.visit v).predicates =
      (operator.fold (v.children.flatMap fun w => (T.visit w).predicates)).toList := by
  rw [T.visit_of_follows h, Contribution.folded, Contribution.predicates_join, List.flatMap_map]

/-- This is one predicate where one of the fields has any. -/
theorem length_predicates_of_follows {v : Visit} {operator : Operator} {g : Filter}
    (h : v.follows? = some (operator, g)) :
    (T.visit v).predicates.length =
      if ∃ w ∈ v.children, (T.visit w).predicates ≠ [] then 1 else 0 := by
  rw [visit_predicates_of_follows h]
  cases hps : v.children.flatMap fun w => (T.visit w).predicates with
  | nil =>
      have hnone := List.flatMap_eq_nil_iff.mp hps
      rw [if_neg (by simpa using hnone)]
      rfl
  | cons p ps =>
      have hsome : ∃ w ∈ v.children, (T.visit w).predicates ≠ [] := by
        by_contra hnone
        rw [List.flatMap_eq_nil_iff.mpr (by simpa using hnone)] at hps
        cases hps
      rw [if_pos hsome]
      rfl

theorem record?_under (group : String) (v : Visit) :
    T.record? (v.under group) = (T.record? v).map (·.under group) := by
  rw [record?, record?, Option.map_map, Visit.name_under]
  rfl

/-- The record of a field that is met and not followed is its own, if it fails. -/
theorem skips_visit {v : Visit} (hgroups : v.groups = []) (hfollows : v.follows? = none)
    (hcollect : T.settings.collectDiagnostics = true) :
    (T.visit v).skips = (T.record? v).toList := by
  have hname : v.name = v.field.name := by
    rw [Visit.name, Visit.path, hgroups]
    rfl
  rw [record?, hname]
  cases accounts_of_follows?_eq_none hfollows hcollect with
  | predicate p hvisit hfailure _ => rw [hvisit, hfailure]; rfl
  | record reason hvisit hfailure _ => rw [hvisit, hfailure]; rfl
  | silence hvisit hfailure _ => rw [hvisit, hfailure]; rfl

/-- The records of a compiled filter are those of the fields that are met. -/
theorem skips_compile (hcollect : T.settings.collectDiagnostics = true) (levels : Nat)
    (f : Filter) : (T.compile levels f).skips = (f.visits levels).filterMap T.record? := by
  induction levels generalizing f with
  | zero =>
      rw [compile_eq_join_visit, Contribution.skips_join, List.flatMap_map, Filter.visits,
        List.filterMap_map, List.filterMap_eq_flatMap_toList]
      congr 1
      funext d
      exact skips_visit (v := ⟨[], f, d, 0⟩) rfl rfl hcollect
  | succ levels ih =>
      rw [compile_eq_join_visit, Contribution.skips_join, List.flatMap_map, Filter.visits,
        List.filterMap_flatMap]
      congr 1
      funext d
      rw [List.filterMap_cons]
      cases hnested : f.nested? d with
      | none =>
          rw [skips_visit (v := ⟨[], f, d, levels + 1⟩) rfl hnested hcollect]
          cases T.record? ⟨[], f, d, levels + 1⟩ <;> rfl
      | some nested =>
          obtain ⟨operator, g⟩ := nested
          -- The group itself is not recorded, and its fields are by one level less.
          have hfollows : (Visit.mk [] f d (levels + 1)).follows? = some (operator, g) := hnested
          have hrecord : T.record? ⟨[], f, d, levels + 1⟩ = none := by
            rw [record?, failure?_of_follows hfollows]
            rfl
          have hvisit : T.visit ⟨[], f, d, levels + 1⟩ =
              (T.compile levels g).folded operator d.name := T.compileField_of_nested? _ hnested
          have hunder : T.record? ∘ Visit.under d.name =
              fun v => (T.record? v).map (·.under d.name) := funext (record?_under d.name)
          rw [hvisit, hrecord, Contribution.folded, ih, List.map_filterMap, ← hunder,
            List.filterMap_map]

end Compiler

/-- The records after one filter are the failures of the fields that are met, each
under its path and in the order of the visits, and the predicates are those of its
fields. A field that is not followed makes one predicate, one record or nothing. A
followed group makes the fold of what its fields make, which is one predicate exactly
where one of them makes any, and has the records of its fields only. -/
theorem Session.diagnostics_add_fresh {ι : Type} {T : Compiler ι}
    (hcollect : T.settings.collectDiagnostics = true) (f : Filter) :
    ((fresh T).add f).diagnostics =
        (f.visits T.settings.maxGroupDepth).filterMap (fun v =>
          (T.failure? v).map fun reason => ⟨v.name, reason⟩) ∧
      ((fresh T).add f).predicates =
        (f.fields.flatMap fun d =>
          (T.visit ⟨[], f, d, T.settings.maxGroupDepth⟩).predicates) ∧
      ∀ v ∈ f.visits T.settings.maxGroupDepth,
        (v.follows? = none → T.Accounts v) ∧
        (v.follows? ≠ none →
          T.failure? v = none ∧
          (T.visit v).predicates.length =
            (if ∃ w ∈ v.children, (T.visit w).predicates ≠ [] then 1 else 0) ∧
          (T.visit v).skips =
            (v.children.flatMap fun w => (T.visit w).skips).map (·.under v.field.name)) ∧
        ∀ operator g, v.follows? = some (operator, g) →
          (∀ w ∈ v.children, w ∈ f.visits T.settings.maxGroupDepth) ∧
          (T.visit v).predicates =
            (operator.fold (v.children.flatMap fun w => (T.visit w).predicates)).toList := by
  refine ⟨?_, ?_, fun v hv => ⟨fun hfollows => ?_, fun hfollows => ?_, fun operator g h => ?_⟩⟩
  · rw [records_add_fresh, Compiler.skips_compile hcollect]
    rfl
  · rw [predicates_add_fresh, Compiler.compile_eq_join_visit, Contribution.predicates_join,
      List.flatMap_map]
  · exact Compiler.accounts_of_follows?_eq_none hfollows hcollect
  · obtain ⟨⟨operator, g⟩, h⟩ := Option.ne_none_iff_exists'.mp hfollows
    exact ⟨Compiler.failure?_of_follows h, Compiler.length_predicates_of_follows h,
      Compiler.visit_skips_of_follows h⟩
  · exact ⟨fun w hw => Filter.mem_visits_of_mem_children hv hw,
      Compiler.visit_predicates_of_follows h⟩

theorem Session.diagnostics_add_search :
    ((fresh .friends).add (.search (.value (.text "Kid")))).diagnostics =
        [⟨"either.nick", .propertyNotFound (.propertyNotFound "Person" "nick" "nick")⟩,
          ⟨"lost", .accessorFailure (.unknownField "Search" "lost")⟩] ∧
      ((fresh .friends).add (.search (.value (.text "Kid")))).predicates =
        [.compare (.property ⟨[], ["name"]⟩) .eq (.text "Ann")] ∧
      (Compiler.friends.visit ⟨[], .search (.value (.text "Kid")),
        ⟨"either", { group := some .or }⟩, 32⟩).predicates.length = 1 ∧
      Compiler.friends.Accounts
        ⟨["either"], .nicknamed (.value (.text "Kid")), ⟨"nick", {}⟩, 31⟩ := by
  obtain ⟨hdiagnostics, hpredicates, hvisits⟩ :=
    diagnostics_add_fresh (T := .friends) rfl (.search (.value (.text "Kid")))
  have heither : ⟨[], .search (.value (.text "Kid")), ⟨"either", { group := some .or }⟩, 32⟩ ∈
      (Filter.search (.value (.text "Kid"))).visits 32 := List.mem_cons_self
  have hnick : ⟨["either"], .nicknamed (.value (.text "Kid")), ⟨"nick", {}⟩, 31⟩ ∈
      (Filter.search (.value (.text "Kid"))).visits 32 :=
    List.mem_cons_of_mem _ List.mem_cons_self
  obtain ⟨-, heither, -⟩ := hvisits _ heither
  obtain ⟨-, hone, -⟩ := heither (Option.some_ne_none _)
  refine ⟨hdiagnostics.trans rfl, hpredicates.trans rfl, hone.trans (if_pos ?_),
    (hvisits _ hnick).1 rfl⟩
  exact ⟨⟨["either"], .nicknamed (.value (.text "Kid")), ⟨"name", {}⟩, 31⟩,
    List.mem_cons_of_mem _ List.mem_cons_self, List.cons_ne_nil _ _⟩

end Criteria
