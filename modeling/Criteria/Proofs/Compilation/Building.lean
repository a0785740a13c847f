import Criteria.Compilation.Session
import Criteria.Proofs.Compilation.Visit

/-!
# What a filter does to a session

A session is handed from field to field, and for every group a further session is
opened whose records come back. Nothing of that shows in the result: a filter
appends to a session what the filter is compiled to by itself, and leaves the rest
as it was (`Session.add_eq_extend`). What a group may still follow is counted down
in `Compiler.compile`, while a session counts the groups around it; `Session.levels`
is the difference to the limit.
-/

namespace Criteria

/-- A group contributes the records of its fields and then its predicate. -/
theorem Contribution.folded_eq_append (operator : Operator) (field : String)
    (t : Contribution) :
    t.folded operator field =
      ⟨[], t.skips.map (·.under field)⟩ ++ ofOption (operator.fold t.predicates) := by
  rw [folded]
  change _ = (⟨_, _ ++ []⟩ : Contribution)
  rw [List.append_nil]
  rfl

namespace Session

variable {ι : Type}

/-- The session with a contribution behind what it has gathered. -/
def extend (s : Session ι) (t : Contribution) : Session ι :=
  { s with
    predicates := s.predicates ++ t.predicates
    diagnostics := s.diagnostics ++ t.skips }

/-- Number of levels of groups that may still be followed. -/
def levels (s : Session ι) : Nat := s.compiler.settings.maxGroupDepth - s.depth

@[simp] theorem compiler_extend (s : Session ι) (t : Contribution) :
    (s.extend t).compiler = s.compiler := rfl

@[simp] theorem levels_extend (s : Session ι) (t : Contribution) :
    (s.extend t).levels = s.levels := rfl

@[simp] theorem clear_extend (s : Session ι) (t : Contribution) :
    (s.extend t).clear = s.clear := rfl

theorem extend_empty (s : Session ι) : s.extend .empty = s := by
  rw [extend, Contribution.empty, List.append_nil, List.append_nil]

theorem extend_append (s : Session ι) (t u : Contribution) :
    s.extend (t ++ u) = (s.extend t).extend u := by
  rw [extend, Contribution.predicates_append, Contribution.skips_append, ← List.append_assoc,
    ← List.append_assoc]
  rfl

theorem levels_of_le {s : Session ι} (h : s.compiler.settings.maxGroupDepth ≤ s.depth) :
    s.levels = 0 := Nat.sub_eq_zero_of_le h

theorem levels_of_not_le {s : Session ι} (h : ¬ s.compiler.settings.maxGroupDepth ≤ s.depth) :
    s.levels = s.child.levels + 1 := by
  simp only [levels, child]
  omega

theorem skip_eq_extend (s : Session ι) (field : String) (reason : SkipReason) :
    s.skip field reason = s.extend (s.compiler.skipped field reason) := by
  rw [skip, Compiler.skipped, extend]
  split
  · rw [Diagnostics.record, List.append_nil]
  · rw [List.append_nil, List.append_nil]

/-- The contribution of a field of which this has become. -/
def contribution (T : Compiler ι) (field : String) : Outcome → Contribution
  | .ok p => .ofOption p
  | .error reason => T.skipped field reason

theorem conclude_eq_extend (s : Session ι) (field : String) (outcome : Outcome) :
    s.conclude field outcome = s.extend (contribution s.compiler field outcome) := by
  cases outcome with
  | error reason => exact s.skip_eq_extend field reason
  | ok p =>
      cases p with
      | none => exact s.extend_empty.symm
      | some p =>
          rw [conclude, addPredicate, contribution, Contribution.ofOption, extend, List.append_nil]
          rfl

theorem group_of_le {s : Session ι} (hle : s.compiler.settings.maxGroupDepth ≤ s.depth)
    {field : String} {operator : Operator} {enter : Session ι → Session ι} :
    s.group field operator enter =
      (.error (.groupTooDeep s.compiler.settings.maxGroupDepth), s) := if_pos hle

/-- Where a group is followed, its records are taken over before its fold is added. -/
theorem group_of_not_le {s : Session ι} (hle : ¬ s.compiler.settings.maxGroupDepth ≤ s.depth)
    {field : String} {operator : Operator} {enter : Session ι → Session ι} {t : Contribution}
    (henter : enter s.child = s.child.extend t) :
    s.group field operator enter =
      (.ok (operator.fold t.predicates), s.extend ⟨[], t.skips.map (·.under field)⟩) := by
  rw [group, if_neg hle, henter]
  simp only [foldWith, absorb, Diagnostics.absorb, extend, child, List.nil_append, List.append_nil]

section Fields

variable (s : Session ι) {f : Filter} (enter : (g : Filter) → f.Nests g → Session ι → Session ι)
  {d : FieldDescriptor}

theorem translate_of_error {cause : AccessError} (hread : f.read d.name = .error cause) :
    s.translate f enter d.metadata = (.error (.accessorFailure cause), s) := by
  unfold translate
  split
  · rename_i other hother
    cases hother.symm.trans hread
    rfl
  · rename_i input hinput
    cases hinput.symm.trans hread

theorem translate_of_nested? {operator : Operator} {g : Filter}
    (h : f.nested? d = some (operator, g)) :
    ∃ hg, s.translate f enter d.metadata = s.group d.name operator (enter g hg) := by
  obtain ⟨hrole, hread⟩ := Filter.nested?_eq_some_iff.mp h
  refine ⟨⟨d.name, hread⟩, ?_⟩
  have hmetadata : d.metadata.role = .group operator := hrole
  unfold translate
  split
  · rename_i other hother
    cases hother.symm.trans hread
  · rename_i input hinput
    cases hinput.symm.trans hread
    simp only [hmetadata]
    rfl

theorem translate_of_read {input : FieldInput} (hread : f.read d.name = .ok input)
    (h : f.nested? d = none) :
    s.translate f enter d.metadata =
      if Compiler.isUnset d.metadata input then (.ok none, s)
      else (s.compiler.constraint d.metadata input, s) := by
  unfold translate
  split
  · rename_i other hother
    cases hother.symm.trans hread
  · rename_i other hother
    cases hother.symm.trans hread
    split
    · rfl
    · split
      · rename_i hrole _
        exact absurd rfl (Filter.ne_group_of_nested?_eq_none hread h _ _ hrole)
      · rfl

/-- Nested filters are added by appending what they are compiled to. -/
def Appends : Prop :=
  ∀ g hg (t : Session ι), enter g hg t = t.extend (t.compiler.compile t.levels g)

variable {enter}

/-- A field that holds a group appends what becomes of the nested filter. -/
theorem addField_of_nested? (henter : Appends enter) {operator : Operator} {g : Filter}
    (h : f.nested? d = some (operator, g)) :
    s.addField f enter d =
      s.extend (s.compiler.compileField (s.compiler.follow s.levels) f d) := by
  obtain ⟨hg, htranslate⟩ := s.translate_of_nested? enter h
  rw [Compiler.compileField_of_nested? _ _ h]
  simp only [addField, htranslate]
  by_cases hle : s.compiler.settings.maxGroupDepth ≤ s.depth
  · rw [levels_of_le hle, group_of_le hle]
    exact s.skip_eq_extend d.name _
  · rw [levels_of_not_le hle, group_of_not_le hle (henter g hg s.child), conclude_eq_extend,
      ← extend_append, Compiler.follow]
    exact congrArg s.extend (Contribution.folded_eq_append operator d.name _).symm

theorem addField_eq_extend (henter : Appends enter) :
    s.addField f enter d =
      s.extend (s.compiler.compileField (s.compiler.follow s.levels) f d) := by
  cases hnested : f.nested? d with
  | some nested => exact s.addField_of_nested? henter hnested
  | none =>
      cases hread : f.read d.name with
      | error cause =>
          simp only [addField, s.translate_of_error enter hread, Compiler.compileField, hread]
          exact s.skip_eq_extend d.name _
      | ok input =>
          rw [Compiler.compileField_of_read _ _ hread hnested]
          simp only [addField, s.translate_of_read enter hread hnested]
          split
          · exact s.extend_empty.symm
          · rw [conclude_eq_extend]
            rfl

/-- Each field finds the session as the fields before it have left it, and appends the
same. -/
theorem foldl_addField (henter : Appends enter) (ds : List FieldDescriptor) :
    ds.foldl (fun t d => t.addField f enter d) s =
      s.extend (.join (ds.map (s.compiler.compileField (s.compiler.follow s.levels) f))) := by
  induction ds generalizing s with
  | nil => exact s.extend_empty.symm
  | cons d ds ih =>
      rw [List.foldl_cons, s.addField_eq_extend henter, ih, compiler_extend, levels_extend,
        ← extend_append]
      rfl

end Fields

/-- A filter appends to a session what it is compiled to. -/
theorem add_eq_extend (s : Session ι) (f : Filter) :
    s.add f = s.extend (s.compiler.compile s.levels f) := by
  fun_induction add s f with
  | case1 s f ih =>
      rw [addFields, Compiler.compile_eq_compileFields]
      exact s.foldl_addField ih f.fields

@[simp] theorem compiler_add (s : Session ι) (f : Filter) :
    (s.add f).compiler = s.compiler := by
  rw [add_eq_extend, compiler_extend]

@[simp] theorem levels_add (s : Session ι) (f : Filter) : (s.add f).levels = s.levels := by
  rw [add_eq_extend, levels_extend]

theorem predicates_add (s : Session ι) (f : Filter) :
    (s.add f).predicates = s.predicates ++ (s.compiler.compile s.levels f).predicates := by
  rw [add_eq_extend, extend]

theorem diagnostics_add (s : Session ι) (f : Filter) :
    (s.add f).diagnostics = s.diagnostics ++ (s.compiler.compile s.levels f).skips := by
  rw [add_eq_extend, extend]

end Session

end Criteria
