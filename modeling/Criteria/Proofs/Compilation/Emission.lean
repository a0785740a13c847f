import Criteria.Proofs.Compilation.Contribution
import Mathlib.Data.List.Basic

/-!
# What a field emits

A declared field contributes at most one predicate. `Compiler.emission?` gives it
by the shape of the input, without errors and diagnostics: a failure and a
deliberate silence are both no predicate. A nested filter emits the fold of what
its own fields emit, so that the predicates of a compiled filter are a recursion
on its groups (`predicates_compile`).
-/

namespace Criteria

/-! Outcomes without their errors: sequencing, mapping and renaming of errors
carry over. -/

section Outcome

variable {ε ε' α β : Type}

theorem toOption_bind (x : Except ε α) (f : α → Except ε β) :
    (x >>= f).toOption = x.toOption.bind fun a => (f a).toOption := by
  cases x <;> rfl

theorem join_toOption_map_some (x : Except ε α) :
    (x.map some).toOption.join = x.toOption := by
  cases x <;> rfl

theorem eq_ok_of_toOption {x : Except ε α} {a : α} (h : x.toOption = some a) : x = .ok a := by
  cases x with
  | error e => cases h
  | ok b => exact congrArg Except.ok (Option.some.inj h)

theorem toOption_mapError (f : ε → ε') (x : Except ε α) :
    (x.mapError f).toOption = x.toOption := by
  cases x <;> rfl

end Outcome

namespace Compiler

variable {ι : Type}

/-- The property at the end of a path navigated from the root. -/
def navigated? (T : Compiler ι) (text : String) : Option PropertyRef :=
  (PropertyPath.parse text).toOption.bind fun path =>
    (T.schema.resolve T.root path).toOption.map (·.reference)

/-- The property at the end of a path whose segments are joined from the root. -/
def joined? (T : Compiler ι) (text : String) : Option PropertyRef :=
  (PropertyPath.parse text).toOption.bind fun path =>
    (T.schema.resolveJoin T.root path).toOption.map (·.reference)

/-- The one property that a field constrains, if it is of such a role. -/
def target? (T : Compiler ι) (m : FieldMetadata) : Option PropertyRef :=
  match m.role with
  | .leaf => T.navigated? m.property
  | .join => T.joined? m.property
  | _ => none

/-- The predicate of a number or date between two properties. -/
def rangeEmission? (T : Compiler ι) (bounds : PropertyPair) (v : Value) : Option Predicate :=
  if v.isNumeric || v.isTemporal then
    (T.navigated? bounds.lower).bind fun lower =>
      (T.navigated? bounds.upper).map fun upper =>
        .within v (.property lower) (.property upper)
  else none

/-- The predicate of a period with both ends in order. -/
def periodEmission? (T : Compiler ι) (bounds : PropertyPair) (start stop : Date) :
    Option Predicate :=
  if compare start stop = .gt then none
  else
    (T.navigated? bounds.lower).bind fun lower =>
      (T.navigated? bounds.upper).map fun upper =>
        Operator.or.combine
          (.betweenLiterals lower (.date start) (.date stop))
          (.betweenLiterals upper (.date start) (.date stop))

/-- The predicate of an input, `nested` giving that of a filter in a group. -/
def inputEmission? (T : Compiler ι) (nested : Operator → Filter → Option Predicate)
    (m : FieldMetadata) : FieldInput → Option Predicate
  | .value v =>
      if v.isEmptyList || (v.isNull && !m.nullable) then none
      else
        match m.role with
        | .leaf | .join => (T.target? m).bind fun ref => (T.dialect.leaf ref v m.operation).toOption
        | .between bounds => T.rangeEmission? bounds v
        | _ => none
  | .group (some g) =>
      match m.role with
      | .group operator => nested operator g
      | _ => none
  | .period (some ⟨some start, some stop⟩) =>
      match m.role with
      | .period bounds => T.periodEmission? bounds start stop
      | _ => none
  | _ => none

/-- The predicate of a declared field. -/
def emission? (T : Compiler ι) (nested : Operator → Filter → Option Predicate)
    (f : Filter) (d : FieldDescriptor) : Option Predicate :=
  (f.read d.name).toOption.bind (T.inputEmission? nested d.metadata)

/-- The predicate of a nested filter, where that many levels of groups are still
followed. -/
def nestedEmission? (T : Compiler ι) : Nat → Operator → Filter → Option Predicate
  | 0, _, _ => none
  | levels + 1, operator, f =>
      operator.fold (f.fields.filterMap (T.emission? (T.nestedEmission? levels) f))

theorem toOption_resolveProperty (T : Compiler ι) (text : String) :
    (T.resolveProperty text).toOption = T.navigated? text := by
  rw [resolveProperty, parsePath, toOption_bind, toOption_mapError, navigated?]
  congr 1
  funext path
  rw [toOption_bind, toOption_mapError]
  cases T.schema.resolve T.root path <;> rfl

theorem toOption_leafPredicate (T : Compiler ι) (m : FieldMetadata) (v : Value) :
    (T.leafPredicate m (.value v)).toOption =
      (T.navigated? m.property).bind fun ref => (T.dialect.leaf ref v m.operation).toOption := by
  change (T.resolveProperty m.property >>= fun ref => _).toOption = _
  rw [toOption_bind, toOption_resolveProperty]
  simp only [toOption_mapError]

theorem toOption_joinPredicate (T : Compiler ι) (m : FieldMetadata) (v : Value) :
    (T.joinPredicate m (.value v)).toOption =
      (T.joined? m.property).bind fun ref => (T.dialect.leaf ref v m.operation).toOption := by
  change (parsePath m.property >>= fun path => _).toOption = _
  rw [toOption_bind, parsePath, toOption_mapError, joined?, Option.bind_assoc]
  congr 1
  funext path
  rw [toOption_mapError, Dialect.joinedLeaf]
  cases T.schema.resolveJoin T.root path <;> rfl

theorem toOption_rangePredicate (T : Compiler ι) (bounds : PropertyPair) (v : Value) :
    (T.rangePredicate bounds (.value v)).toOption = T.rangeEmission? bounds v := by
  change (T.resolveProperty bounds.lower >>= fun lower => _).toOption = _
  rw [toOption_bind, toOption_resolveProperty, rangeEmission?]
  by_cases h : (v.isNumeric || v.isTemporal) = true
  · rw [if_pos h]
    congr 1
    funext lower
    rw [toOption_bind, toOption_resolveProperty]
    simp only [toOption_mapError, Predicate.betweenProperties, if_pos h]
    cases T.navigated? bounds.upper <;> rfl
  · rw [if_neg h, Option.bind_eq_none_iff]
    intro lower _
    rw [toOption_bind, toOption_resolveProperty, Option.bind_eq_none_iff]
    intro upper _
    simp only [toOption_mapError, Predicate.betweenProperties, if_neg h]
    rfl

theorem toOption_periodPredicate (T : Compiler ι) (bounds : PropertyPair) (start stop : Date) :
    (T.periodPredicate bounds ⟨some start, some stop⟩).toOption =
      T.periodEmission? bounds start stop := by
  simp only [periodPredicate, periodEmission?]
  split
  · rfl
  · rw [toOption_bind, toOption_resolveProperty]
    congr 1
    funext lower
    rw [toOption_bind, toOption_resolveProperty]
    cases T.navigated? bounds.upper <;> rfl

/-- The predicate of a value that does not leave its field unset. -/
theorem toOption_constraint_value (T : Compiler ι) (m : FieldMetadata) (v : Value) :
    (T.constraint m (.value v)).toOption.join =
      match m.role with
      | .leaf | .join => (T.target? m).bind fun ref => (T.dialect.leaf ref v m.operation).toOption
      | .between bounds => T.rangeEmission? bounds v
      | _ => none := by
  cases hrole : m.role with
  | leaf =>
      simp only [constraint, target?, hrole]
      rw [join_toOption_map_some, toOption_leafPredicate]
  | join =>
      simp only [constraint, target?, hrole]
      rw [join_toOption_map_some, toOption_joinPredicate]
  | between bounds =>
      simp only [constraint, hrole]
      by_cases hnull : (FieldInput.value v).isNull = true
      · cases v with
        | null => rfl
        | _ => cases hnull
      · rw [if_neg hnull, join_toOption_map_some, toOption_rangePredicate]
  | group operator => simp only [constraint, hrole]; rfl
  | period bounds => simp only [constraint, hrole]; rfl

/-- The predicate of an input that does not leave its field unset and holds no
followed filter. -/
theorem toOption_constraint (T : Compiler ι) {m : FieldMetadata} {input : FieldInput}
    {nested : Operator → Filter → Option Predicate} (hset : isUnset m input = false)
    (hgroup : ∀ operator g, m.role = .group operator → input ≠ .group (some g)) :
    (T.constraint m input).toOption.join = T.inputEmission? nested m input := by
  cases input with
  | value v =>
      have h : ¬ (v.isEmptyList || (v.isNull && !m.nullable)) = true := by
        simpa [isUnset, FieldInput.isEmptyList, FieldInput.isNull] using hset
      rw [toOption_constraint_value, inputEmission?, if_neg h]
  | group content =>
      cases content with
      | none => cases hrole : m.role <;> simp only [constraint, hrole] <;> rfl
      | some g =>
          cases hrole : m.role with
          | group operator => exact absurd rfl (hgroup operator g hrole)
          | _ => simp only [constraint, inputEmission?, hrole]; rfl
  | period content =>
      cases content with
      | none => cases hrole : m.role <;> simp only [constraint, hrole] <;> rfl
      | some period =>
          obtain ⟨start, stop⟩ := period
          cases hrole : m.role with
          | period bounds =>
              simp only [constraint, hrole]
              rw [join_toOption_map_some]
              cases start with
              | none => rfl
              | some start =>
                  cases stop with
                  | none => rfl
                  | some stop =>
                      rw [toOption_periodPredicate]
                      simp only [inputEmission?, hrole]
          | _ => cases start <;> cases stop <;> simp only [constraint, inputEmission?, hrole] <;> rfl

/-- An input that leaves its field unset emits nothing. -/
theorem inputEmission?_of_isUnset (T : Compiler ι) (nested : Operator → Filter → Option Predicate)
    {m : FieldMetadata} {input : FieldInput} (h : isUnset m input = true) :
    T.inputEmission? nested m input = none := by
  cases input with
  | value v =>
      have hv : (v.isEmptyList || (v.isNull && !m.nullable)) = true := by
        simpa [isUnset, FieldInput.isEmptyList, FieldInput.isNull] using h
      rw [inputEmission?, if_pos hv]
  | group content =>
      cases content with
      | none => rfl
      | some g => simp [isUnset, FieldInput.isEmptyList, FieldInput.isNull] at h
  | period content =>
      cases content with
      | none => rfl
      | some period => simp [isUnset, FieldInput.isEmptyList, FieldInput.isNull] at h

/-- Past its accessor an input contributes what it emits. -/
theorem predicates_compileInput (T : Compiler ι) {follow : Filter → Option Contribution}
    {nested : Operator → Filter → Option Predicate}
    (h : ∀ operator g, ((follow g).bind fun t => operator.fold t.predicates) = nested operator g)
    (m : FieldMetadata) (input : FieldInput) :
    (T.compileInput follow m input).predicates = (T.inputEmission? nested m input).toList := by
  cases hset : isUnset m input with
  | true =>
      unfold compileInput
      rw [if_pos hset, T.inputEmission?_of_isUnset nested hset]
      rfl
  | false =>
      unfold compileInput
      rw [if_neg (by simp [hset])]
      split
      · rename_i operator g hrole
        rw [inputEmission?, hrole]
        simp only
        rw [← h operator g]
        cases follow g <;> rfl
      · rename_i input _ _ hgroup
        have hconstraint : (T.constraint m input).toOption.join = T.inputEmission? nested m input :=
          T.toOption_constraint hset fun operator g hrole hinput => hgroup operator g hrole hinput
        rw [← hconstraint]
        cases T.constraint m input with
        | error reason => rfl
        | ok p => rfl

/-- A declared field contributes what it emits. -/
theorem predicates_compileField (T : Compiler ι) {follow : Filter → Option Contribution}
    {nested : Operator → Filter → Option Predicate}
    (h : ∀ operator g, ((follow g).bind fun t => operator.fold t.predicates) = nested operator g)
    (f : Filter) (d : FieldDescriptor) :
    (T.compileField follow f d).predicates = (T.emission? nested f d).toList := by
  rw [compileField, emission?]
  cases f.read d.name with
  | error cause => rfl
  | ok input => exact T.predicates_compileInput h d.metadata input

/-- The fields of a filter contribute what they emit, in order. -/
theorem predicates_compileFields (T : Compiler ι) {follow : Filter → Option Contribution}
    {nested : Operator → Filter → Option Predicate}
    (h : ∀ operator g, ((follow g).bind fun t => operator.fold t.predicates) = nested operator g)
    (f : Filter) :
    (T.compileFields follow f).predicates = f.fields.filterMap (T.emission? nested f) := by
  rw [compileFields, Contribution.predicates_join, List.flatMap_map, List.filterMap_eq_flatMap_toList]
  congr 1
  funext d
  exact T.predicates_compileField h f d

/-- The predicates of a compiled filter are those that its fields emit, each
nested filter being folded one level further down. -/
theorem predicates_compile (T : Compiler ι) (levels : Nat) (f : Filter) :
    (T.compile levels f).predicates =
      f.fields.filterMap (T.emission? (T.nestedEmission? levels) f) := by
  induction levels generalizing f with
  | zero => exact T.predicates_compileFields (fun _ _ => rfl) f
  | succ levels ih =>
      -- A followed group is compiled with one level less and then folded.
      refine T.predicates_compileFields (fun operator g => ?_) f
      rw [Option.bind_some, ih, nestedEmission?]

end Compiler

end Criteria
