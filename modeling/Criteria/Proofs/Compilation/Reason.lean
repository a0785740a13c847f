import Criteria.Proofs.Compilation.Accounting
import Criteria.Proofs.Compilation.Muting

/-!
# Reasons of failures

Past its accessor and in the shape that its role expects, a field can only fail for
what it asks for: a path, a kind of value, or the ends of a period
(`Compiler.concernsContent_of_inputFailure?`). A nested filter is the one input that
fails for where it stands. So where every filter can be read as it is declared, no
record is about reading (`Compiler.isMisread_of_mem_skips`).
-/

namespace Criteria

/-- The reason lies in what a field asks for, not in how it is read or where it
stands. -/
def SkipReason.concernsContent : SkipReason → Bool
  | propertyNotFound _ | unsupportedKind _ _ | invalidPeriod _ _ | incompletePeriod => true
  | accessorFailure _ | unexpectedInput _ _ | groupTooDeep _ => false

/-- The field is not read as it is declared: in another shape, or not at all. -/
def SkipReason.isMisread : SkipReason → Bool
  | unexpectedInput _ _ => true
  | accessorFailure (.unknownField _ _) => true
  | _ => false

/-- Every declared field can be read, and in the shape that its role expects. -/
def Filter.ReadsAsDeclared (f : Filter) : Prop :=
  ∀ d ∈ f.fields, ∃ input, f.read d.name = .ok input ∧ input.shape = d.metadata.role.expects

/-- The reason is that no level was left for a group. -/
def SkipReason.isTooDeep : SkipReason → Bool
  | groupTooDeep _ => true
  | _ => false

theorem SkipReason.isMisread_of_concernsContent {reason : SkipReason}
    (h : reason.concernsContent = true) : reason.isMisread = false := by
  cases reason <;> first | rfl | cases h

theorem SkipReason.isTooDeep_of_concernsContent {reason : SkipReason}
    (h : reason.concernsContent = true) : reason.isTooDeep = false := by
  cases reason <;> first | rfl | cases h

section Causes

variable {a b : Option SkipReason} {reason : SkipReason}

theorem concernsContent_of_or (ha : ∀ r ∈ a, r.concernsContent = true)
    (hb : ∀ r ∈ b, r.concernsContent = true) (h : reason ∈ a.or b) :
    reason.concernsContent = true := by
  rcases Option.or_eq_some_iff.mp h with h | ⟨-, h⟩
  · exact ha reason h
  · exact hb reason h

theorem concernsContent_of_propertyNotFound {cause : Option ResolveError}
    (h : reason ∈ cause.map SkipReason.propertyNotFound) : reason.concernsContent = true := by
  obtain ⟨e, -, rfl⟩ := Option.map_eq_some_iff.mp h
  rfl

theorem concernsContent_of_membershipFailure? {v : Value} (h : reason ∈ v.membershipFailure?) :
    reason.concernsContent = true := by
  unfold Value.membershipFailure? at h
  split at h
  · split at h
    · cases h
      rfl
    · cases h
  · cases h

theorem concernsContent_of_rangeFailure? {v : Value} (h : reason ∈ v.rangeFailure?) :
    reason.concernsContent = true := by
  unfold Value.rangeFailure? at h
  split at h
  · cases h
  · cases h
    rfl

namespace Compiler

variable {ι : Type} (T : Compiler ι)

theorem concernsContent_of_periodFailure? {bounds : PropertyPair} {period : DatePeriod}
    (h : reason ∈ T.periodFailure? bounds period) : reason.concernsContent = true := by
  unfold periodFailure? at h
  split at h
  · split at h
    · cases h
      rfl
    · exact concernsContent_of_or (fun _ => concernsContent_of_propertyNotFound)
        (fun _ => concernsContent_of_propertyNotFound) h
  · cases h
    rfl

/-- An input of the expected shape that holds no filter fails for what is asked. -/
theorem concernsContent_of_inputFailure? {levels : Nat} {m : FieldMetadata} {input : FieldInput}
    (hshape : input.shape = m.role.expects)
    (hgroup : ∀ operator g, m.role = .group operator → input ≠ .group (some g))
    (h : reason ∈ T.inputFailure? levels m input) : reason.concernsContent = true := by
  unfold inputFailure? at h
  rw [if_neg (not_not_intro hshape)] at h
  split at h
  · exact concernsContent_of_or (fun _ => concernsContent_of_propertyNotFound)
      (fun _ => concernsContent_of_membershipFailure?) h
  · exact concernsContent_of_or (fun _ => concernsContent_of_propertyNotFound)
      (fun _ => concernsContent_of_membershipFailure?) h
  · refine concernsContent_of_or (fun _ hpath => ?_) (fun _ => concernsContent_of_rangeFailure?) h
    exact concernsContent_of_or (fun _ => concernsContent_of_propertyNotFound)
      (fun _ => concernsContent_of_propertyNotFound) hpath
  · exact T.concernsContent_of_periodFailure? h
  · rename_i operator g hrole
    exact absurd rfl (hgroup operator g hrole)
  · cases h

/-- Only a group that holds a filter fails for being too deep. -/
theorem isTooDeep_of_inputFailure? {levels : Nat} {m : FieldMetadata} {input : FieldInput}
    (hgroup : ∀ operator g, m.role = .group operator → input ≠ .group (some g))
    (h : reason ∈ T.inputFailure? levels m input) : reason.isTooDeep = false := by
  by_cases hshape : input.shape = m.role.expects
  · exact SkipReason.isTooDeep_of_concernsContent
      (T.concernsContent_of_inputFailure? hshape hgroup h)
  · unfold inputFailure? at h
    rw [if_pos hshape] at h
    cases h
    rfl

/-- A field that is read as it is declared fails for what it asks for, or for where
it stands. -/
theorem isMisread_of_failure? {v : Visit} {input : FieldInput}
    (hread : v.filter.read v.field.name = .ok input)
    (hshape : input.shape = v.field.metadata.role.expects) (h : reason ∈ T.failure? v) :
    reason.isMisread = false := by
  cases hnested : v.filter.nested? v.field with
  | some nested =>
      obtain ⟨operator, g⟩ := nested
      obtain ⟨-, hfailure⟩ := T.failure?_of_nested? hnested
      rw [hfailure] at h
      split at h
      · cases h
        rfl
      · cases h
  | none =>
      have hgroup := Filter.ne_group_of_nested?_eq_none hread hnested
      rw [failure?, hread] at h
      simp only at h
      split at h
      · cases h
      · have hcontent := T.concernsContent_of_inputFailure? hshape hgroup h
        exact SkipReason.isMisread_of_concernsContent hcontent

/-- Where all filters that are met can be read as they are declared, no record is
about reading. -/
theorem isMisread_of_mem_skips {P : Filter → Prop} (hreads : ∀ f, P f → f.ReadsAsDeclared)
    (hnested : ∀ f, P f → ∀ d ∈ f.fields, ∀ operator g, f.nested? d = some (operator, g) → P g)
    {levels : Nat} {f : Filter} (hf : P f) {s : FieldSkip}
    (hs : s ∈ (T.compile levels f).skips) : s.reason.isMisread = false := by
  cases hcollect : T.settings.collectDiagnostics with
  | false =>
      rw [skips_compile_of_mute hcollect] at hs
      cases hs
  | true =>
      rw [skips_compile hcollect] at hs
      obtain ⟨v, hv, hrecord⟩ := List.mem_filterMap.mp hs
      obtain ⟨reason, hreason, rfl⟩ := Option.map_eq_some_iff.mp hrecord
      obtain ⟨hfilter, hfield⟩ := Filter.of_mem_visits hnested hf hv
      obtain ⟨input, hread, hshape⟩ := hreads v.filter hfilter v.field hfield
      exact T.isMisread_of_failure? hread hshape hreason

end Compiler

end Causes

end Criteria
