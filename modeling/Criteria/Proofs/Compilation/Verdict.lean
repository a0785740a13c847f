import Criteria.Proofs.Compilation.Emission
import Criteria.Proofs.Compilation.Run
import Criteria.Proofs.Predicate.Answer
import Criteria.Proofs.Predicate.Truth

/-!
# Reading a filter without compiling it

A filter can be read on a row directly. Every field has a verdict on the row or
abstains, and the verdicts of a filter are settled by an operator. No predicate
is built on the way: `Compiler.fieldVerdict` looks at the input, the declaration
and the stored values only.

The main statement is `map_holds_foldWith_add`. Compiling the filter, folding
what has been gathered and evaluating the fold comes to the same verdict, and to
no predicate exactly where every field abstains.
-/

namespace Criteria

namespace Compiler

variable {ι : Type} (T : Compiler ι) (row : Row)

/-- A number or date on a range stored in two properties. -/
def rangeVerdict (bounds : PropertyPair) (v : Value) : Option Bool :=
  if v.isNumeric || v.isTemporal then
    (T.navigated? bounds.lower).bind fun lower =>
      (T.navigated? bounds.upper).map fun upper =>
        (row.get lower).any fun l => (row.get upper).any fun u =>
          (v.order l).any Ordering.isGE && (v.order u).any Ordering.isLE
  else none

/-- A requested period on one stored in two properties: one of the stored ends
lies inside. An inverted period asks for nothing. -/
def periodVerdict (bounds : PropertyPair) (start stop : Date) : Option Bool :=
  if compare start stop = .gt then none
  else
    (T.navigated? bounds.lower).bind fun lower =>
      (T.navigated? bounds.upper).map fun upper =>
        (row.get lower).any (liesInside start stop) || (row.get upper).any (liesInside start stop)
where
  /-- A stored value lies between two dates, both included. -/
  liesInside (start stop : Date) (v : Value) : Bool :=
    (v.order (.date start)).any Ordering.isGE && (v.order (.date stop)).any Ordering.isLE

/-- The verdict of an input on the row, `nested` giving that of a filter in a
group. Inputs of a shape that the role does not expect abstain, and so do empty
lists and null where it is not asked for. -/
def inputVerdict (nested : Operator → Filter → Option Bool) (m : FieldMetadata) :
    FieldInput → Option Bool
  | .value v =>
      if v.isEmptyList || (v.isNull && !m.nullable) then none
      else
        match m.role with
        | .leaf | .join => (T.target? m).bind fun ref => T.dialect.answer? row ref m.operation v
        | .between bounds => T.rangeVerdict row bounds v
        | _ => none
  | .group (some g) =>
      match m.role with
      | .group operator => nested operator g
      | _ => none
  | .period (some ⟨some start, some stop⟩) =>
      match m.role with
      | .period bounds => T.periodVerdict row bounds start stop
      | _ => none
  | _ => none

/-- The verdict of a declared field; one that cannot be read abstains. -/
def fieldVerdict (nested : Operator → Filter → Option Bool) (f : Filter) (d : FieldDescriptor) :
    Option Bool :=
  (f.read d.name).toOption.bind (T.inputVerdict row nested d.metadata)

/-- The verdict of a nested filter. It abstains where no level of groups is left,
and where all of its fields do. -/
def nestedVerdict : Nat → Operator → Filter → Option Bool
  | 0, _, _ => none
  | levels + 1, operator, f =>
      operator.settle (f.fields.filterMap (T.fieldVerdict row (nestedVerdict levels) f))

/-- The verdicts of the fields that do not abstain. -/
def verdicts (levels : Nat) (f : Filter) : List Bool :=
  f.fields.filterMap (T.fieldVerdict row (T.nestedVerdict row levels) f)

/-- The verdict of a filter under an operator. -/
def verdict (levels : Nat) (operator : Operator) (f : Filter) : Option Bool :=
  operator.settle (T.verdicts row levels f)

theorem map_holds_rangeEmission? (bounds : PropertyPair) (v : Value) :
    (T.rangeEmission? bounds v).map (Predicate.holds T.dialect row) =
      T.rangeVerdict row bounds v := by
  unfold rangeEmission? rangeVerdict
  split
  · rw [Option.map_bind]
    congr 1
    funext lower
    cases T.navigated? bounds.upper with
    | none => rfl
    | some upper =>
        simp only [Function.comp, Option.map_some, Predicate.holds, FieldExpr.read,
          Value.isWithin_eq_any]
  · rfl

theorem map_holds_periodEmission? (bounds : PropertyPair) (start stop : Date) :
    (T.periodEmission? bounds start stop).map (Predicate.holds T.dialect row) =
      T.periodVerdict row bounds start stop := by
  unfold periodEmission? periodVerdict
  split
  · rfl
  · rw [Option.map_bind]
    congr 1
    funext lower
    cases T.navigated? bounds.upper with
    | none => rfl
    | some upper =>
        simp only [Function.comp, Option.map_some, Predicate.holds_combine, Operator.value,
          Predicate.betweenLiterals, Predicate.holds, FieldExpr.read, Value.isWithin_eq_any,
          List.any_cons, List.any_nil, Bool.or_false, id]
        rfl

theorem map_holds_inputEmission? {nested : Operator → Filter → Option Predicate}
    {nestedVerdict : Operator → Filter → Option Bool}
    (h : ∀ operator g, (nested operator g).map (Predicate.holds T.dialect row) =
      nestedVerdict operator g)
    (m : FieldMetadata) (input : FieldInput) :
    (T.inputEmission? nested m input).map (Predicate.holds T.dialect row) =
      T.inputVerdict row nestedVerdict m input := by
  cases input with
  | value v =>
      simp only [inputEmission?, inputVerdict]
      split
      · rfl
      · have hleaf : ((T.target? m).bind fun ref =>
              (T.dialect.leaf ref v m.operation).toOption).map (Predicate.holds T.dialect row) =
            (T.target? m).bind fun ref => T.dialect.answer? row ref m.operation v := by
          rw [Option.map_bind]
          congr 1
          funext ref
          exact T.dialect.map_holds_leaf row ref m.operation v
        cases hrole : m.role with
        | leaf => exact hleaf
        | join => exact hleaf
        | between bounds => exact T.map_holds_rangeEmission? row bounds v
        | group operator => rfl
        | period bounds => rfl
  | group content =>
      cases content with
      | none => rfl
      | some g =>
          simp only [inputEmission?, inputVerdict]
          cases m.role with
          | group operator => exact h operator g
          | _ => rfl
  | period content =>
      cases content with
      | none => rfl
      | some period =>
          obtain ⟨start, stop⟩ := period
          cases start with
          | none => rfl
          | some start =>
              cases stop with
              | none => rfl
              | some stop =>
                  simp only [inputEmission?, inputVerdict]
                  cases m.role with
                  | period bounds => exact T.map_holds_periodEmission? row bounds start stop
                  | _ => rfl

/-- What a field emits is as true as it judges. -/
theorem map_holds_emission? {nested : Operator → Filter → Option Predicate}
    {nestedVerdict : Operator → Filter → Option Bool}
    (h : ∀ operator g, (nested operator g).map (Predicate.holds T.dialect row) =
      nestedVerdict operator g)
    (f : Filter) (d : FieldDescriptor) :
    (T.emission? nested f d).map (Predicate.holds T.dialect row) =
      T.fieldVerdict row nestedVerdict f d := by
  rw [emission?, fieldVerdict, Option.map_bind]
  congr 1
  funext input
  exact T.map_holds_inputEmission? row h d.metadata input

theorem map_holds_filterMap_emission? {nested : Operator → Filter → Option Predicate}
    {nestedVerdict : Operator → Filter → Option Bool}
    (h : ∀ operator g, (nested operator g).map (Predicate.holds T.dialect row) =
      nestedVerdict operator g)
    (f : Filter) :
    (f.fields.filterMap (T.emission? nested f)).map (Predicate.holds T.dialect row) =
      f.fields.filterMap (T.fieldVerdict row nestedVerdict f) := by
  rw [List.map_filterMap]
  congr 1
  funext d
  exact T.map_holds_emission? row h f d

theorem map_holds_nestedEmission? (levels : Nat) (operator : Operator) (f : Filter) :
    (T.nestedEmission? levels operator f).map (Predicate.holds T.dialect row) =
      T.nestedVerdict row levels operator f := by
  induction levels generalizing operator f with
  | zero => rfl
  | succ levels ih =>
      rw [nestedEmission?, Predicate.map_holds_fold, nestedVerdict]
      exact congrArg operator.settle (T.map_holds_filterMap_emission? row ih f)

/-- The predicates of a compiled filter are as true as its fields judge. -/
theorem map_holds_compile (levels : Nat) (f : Filter) :
    (T.compile levels f).predicates.map (Predicate.holds T.dialect row) =
      T.verdicts row levels f := by
  rw [predicates_compile, verdicts]
  exact T.map_holds_filterMap_emission? row (T.map_holds_nestedEmission? row levels) f

end Compiler

/-- Compiling a filter, folding it and evaluating the fold comes to the verdict
of the filter, whatever the schema, the settings, the operator and the row. -/
theorem Session.map_holds_foldWith_add {ι : Type} (T : Compiler ι) (f : Filter)
    (operator : Operator) (row : Row) :
    (((Session.fresh T).add f).foldWith operator).map (Predicate.holds T.dialect row) =
      T.verdict row T.settings.maxGroupDepth operator f := by
  rw [foldWith_add_fresh, Predicate.map_holds_fold, Compiler.verdict]
  exact congrArg operator.settle (T.map_holds_compile row T.settings.maxGroupDepth f)

end Criteria
