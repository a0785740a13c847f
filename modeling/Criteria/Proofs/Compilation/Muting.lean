import Criteria.Proofs.Compilation.Emission
import Criteria.Proofs.Compilation.Run
import Criteria.Proofs.Compilation.Visit

/-!
# Compilation without records

Whether the skipped fields are recorded is a setting of its own. A session that
does not record them holds, after the same calls, the same predicates as one that
does, and no records at all (`Session.mutes_run_fresh`). Nested filters are
compiled within the same settings, so there is nothing that a group could hand
over to the filter around it.
-/

namespace Criteria

namespace Compiler

variable {ι : Type} (T : Compiler ι)

/-- The same compilation, with the skipped fields recorded or not. -/
def collecting (isOn : Bool) : Compiler ι :=
  { T with settings := { T.settings with collectDiagnostics := isOn } }

theorem emission?_collecting (isOn : Bool) :
    (T.collecting isOn).emission? = T.emission? := rfl

theorem nestedEmission?_collecting (isOn : Bool) (levels : Nat) :
    (T.collecting isOn).nestedEmission? levels = T.nestedEmission? levels := by
  induction levels with
  | zero => rfl
  | succ levels ih =>
      funext operator f
      rw [nestedEmission?, nestedEmission?, ih, emission?_collecting]

theorem predicates_compile_collecting (isOn : Bool) (levels : Nat) (f : Filter) :
    ((T.collecting isOn).compile levels f).predicates = (T.compile levels f).predicates := by
  rw [predicates_compile, predicates_compile, nestedEmission?_collecting, emission?_collecting]

variable {T}

theorem skips_skipped (hmute : T.settings.collectDiagnostics = false) (field : String)
    (reason : SkipReason) : (T.skipped field reason).skips = [] := by
  rw [skipped, hmute]
  rfl

/-- A field leaves no record, if no nested filter does. -/
theorem skips_compileField_of_mute (hmute : T.settings.collectDiagnostics = false)
    {follow : Filter → Option Contribution} (hfollow : ∀ g, ∀ t ∈ follow g, t.skips = [])
    (f : Filter) (d : FieldDescriptor) : (T.compileField follow f d).skips = [] := by
  cases hnested : f.nested? d with
  | some nested =>
      obtain ⟨operator, g⟩ := nested
      rw [T.compileField_of_nested? follow hnested]
      cases hg : follow g with
      | none => exact skips_skipped hmute _ _
      | some t =>
          have hrecords : t.skips.map (·.under d.name) = [] := by
            rw [hfollow g t hg, List.map_nil]
          exact hrecords
  | none =>
      cases hread : f.read d.name with
      | error cause =>
          rw [compileField, hread]
          exact skips_skipped hmute _ _
      | ok input =>
          rw [T.compileField_of_read follow hread hnested]
          split
          · rfl
          · split
            · rfl
            · exact skips_skipped hmute _ _

theorem skips_compileFields_of_mute (hmute : T.settings.collectDiagnostics = false)
    {follow : Filter → Option Contribution} (hfollow : ∀ g, ∀ t ∈ follow g, t.skips = [])
    (f : Filter) : (T.compileFields follow f).skips = [] := by
  rw [compileFields, Contribution.skips_join, List.flatMap_map, List.flatMap_eq_nil_iff]
  intro d _
  exact skips_compileField_of_mute hmute hfollow f d

theorem skips_compile_of_mute (hmute : T.settings.collectDiagnostics = false) (levels : Nat)
    (f : Filter) : (T.compile levels f).skips = [] := by
  induction levels generalizing f with
  | zero =>
      apply skips_compileFields_of_mute hmute
      intro g t ht
      cases ht
  | succ levels ih =>
      apply skips_compileFields_of_mute hmute
      intro g t ht
      obtain rfl := Option.mem_some.mp ht
      exact ih g

end Compiler

namespace Session

variable {ι : Type}

/-- The second session holds the predicates of the first and no records, and goes
on without any. -/
structure Mutes (s t : Session ι) : Prop where
  compiler : t.compiler = s.compiler.collecting false
  levels : t.levels = s.levels
  predicates : t.predicates = s.predicates
  diagnostics : t.diagnostics = []

/-- What is added to both sessions is the same, but for the records. -/
theorem mutes_add {s t : Session ι} (h : s.Mutes t) (f : Filter) : (s.add f).Mutes (t.add f) := by
  constructor
  · rw [compiler_add, compiler_add, h.compiler]
  · rw [levels_add, levels_add, h.levels]
  · rw [predicates_add, predicates_add, h.predicates, h.compiler, h.levels,
      Compiler.predicates_compile_collecting]
  · have hmute : t.compiler.settings.collectDiagnostics = false := by
      rw [h.compiler]
      rfl
    rw [diagnostics_add, h.diagnostics, Compiler.skips_compile_of_mute hmute]
    rfl

theorem mutes_call {s t : Session ι} (h : s.Mutes t) (c : Call) :
    (s.call c).Mutes (t.call c) := by
  cases c with
  | add f => exact mutes_add h f
  | addPredicate p =>
      have hpredicates : t.predicates ++ [p] = s.predicates ++ [p] := by rw [h.predicates]
      exact ⟨h.compiler, h.levels, hpredicates, h.diagnostics⟩
  | clear => exact ⟨h.compiler, h.levels, rfl, rfl⟩
  | fold operator => exact h

theorem mutes_run {s t : Session ι} (h : s.Mutes t) (calls : List Call) :
    (s.run calls).Mutes (t.run calls) := by
  induction calls generalizing s t with
  | nil => exact h
  | cons c calls ih =>
      rw [run_cons, run_cons]
      exact ih (mutes_call h c)

/-- Recording skipped fields has no influence. Two sessions that differ in nothing
else hold the same predicates after the same calls and fold them alike, and the one
that does not record has no records. -/
theorem mutes_run_fresh (T : Compiler ι) (calls : List Call) :
    ((fresh (T.collecting false)).run calls).predicates =
        ((fresh (T.collecting true)).run calls).predicates ∧
      (∀ operator, ((fresh (T.collecting false)).run calls).foldWith operator =
        ((fresh (T.collecting true)).run calls).foldWith operator) ∧
      ((fresh (T.collecting false)).run calls).diagnostics = [] := by
  have hfresh : (fresh (T.collecting true)).Mutes (fresh (T.collecting false)) :=
    ⟨rfl, rfl, rfl, rfl⟩
  have hrun := mutes_run hfresh calls
  refine ⟨hrun.predicates, fun operator => ?_, hrun.diagnostics⟩
  rw [foldWith, foldWith, hrun.predicates]

end Session

end Criteria
