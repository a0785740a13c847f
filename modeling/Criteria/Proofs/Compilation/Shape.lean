import Criteria.Proofs.Compilation.Reference
import Criteria.Proofs.Predicate.Shape

/-!
# Form of compiled predicates

All nodes that a session ever hands to a storage layer are well-formed
(`wellFormed_of_mem_nodes`), those of what it holds and those of every fold. A
condition on a missing value stands only where a filter asks for one:
`Compiler.AsksMissing` names the properties that the filters ask to be missing.
-/

namespace Criteria

namespace Compiler

variable {ι : Type} {T : Compiler ι}

/-- One of the filters holds a null in a nullable field, of its own or nested,
that constrains the property directly or through joins. -/
def AsksMissing (T : Compiler ι) (fs : List Filter) (ref : PropertyRef) : Prop :=
  ∃ f ∈ fs, ∃ d, f.Reads d (.value .null) ∧ d.tags.nullable = true ∧
    (d.tags.role = .leaf ∨ d.tags.role = .join) ∧ T.target? d.metadata = some ref

/-- A node of what a field made of its own input is well-formed. -/
theorem wellFormed_of_makes {AsksMissing : PropertyRef → Prop} {m : FieldMetadata}
    {input : FieldInput} {r q : Predicate} (hmakes : T.Makes m input r) (hq : q ∈ r.nodes)
    (hmissing : ∀ ref, input = .value .null → m.nullable = true →
      (m.role = .leaf ∨ m.role = .join) → T.target? m = some ref → AsksMissing ref) :
    q.WellFormed T.settings.wildcard AsksMissing := by
  cases hmakes with
  | leaf hempty hnull hrole htarget hleaf =>
      have hbuilds := Dialect.builds_of_leaf hleaf
      rw [hbuilds.nodes_eq, List.mem_singleton] at hq
      rw [hq]
      refine Predicate.wellFormed_of_builds hbuilds hempty ?_
      rintro rfl
      exact hmissing _ rfl (hnull rfl) hrole htarget
  | range hkind hlower hupper =>
      obtain rfl := List.mem_singleton.mp hq
      exact ⟨hkind, ⟨_, rfl, joins_of_navigated? hlower⟩, ⟨_, rfl, joins_of_navigated? hupper⟩⟩
  | period horder hlower hupper =>
      have hspan := Ordering.isLE_iff_ne_gt.mpr horder
      rcases Predicate.mem_nodes_combine.mp hq with rfl | hq | hq
      · rfl
      · obtain rfl := List.mem_singleton.mp hq
        exact ⟨⟨_, .property⟩, hspan⟩
      · obtain rfl := List.mem_singleton.mp hq
        exact ⟨⟨_, .property⟩, hspan⟩

/-- A node of a compiled predicate is well-formed. -/
theorem wellFormed_of_compile {levels : Nat} {fs : List Filter} {f : Filter} (hf : f ∈ fs)
    {p q : Predicate} (hp : p ∈ (T.compile levels f).predicates) (hq : q ∈ p.nodes) :
    q.WellFormed T.settings.wildcard (T.AsksMissing fs) := by
  rcases isBinary_or_yields_of_compile hp hq with hbinary | ⟨d, input, r, hreads, hmakes, hq⟩
  · exact Predicate.wellFormed_of_isBinary hbinary
  · refine wellFormed_of_makes hmakes hq ?_
    rintro ref rfl hnullable hrole htarget
    exact ⟨f, hf, d, hreads, hnullable, hrole, htarget⟩

end Compiler

namespace Session

variable {ι : Type} {T : Compiler ι} {calls : List Call}

/-- Every node that a session fed with filters holds, or that one of its folds
holds, is well-formed. -/
theorem wellFormed_of_mem_nodes (hcalls : ∀ p, .addPredicate p ∉ calls) {p q : Predicate}
    (hp : p ∈ ((fresh T).run calls).predicates ∨
      ∃ operator, ((fresh T).run calls).foldWith operator = some p)
    (hq : q ∈ p.nodes) :
    q.WellFormed T.settings.wildcard (T.AsksMissing (Call.filters calls)) := by
  have hheld {r : Predicate} (hr : r ∈ ((fresh T).run calls).predicates) (hq : q ∈ r.nodes) :
      q.WellFormed T.settings.wildcard (T.AsksMissing (Call.filters calls)) := by
    obtain ⟨f, hf, hr⟩ := mem_predicates_run_fresh hcalls hr
    exact Compiler.wellFormed_of_compile hf hr hq
  rcases hp with hp | ⟨operator, hfold⟩
  · exact hheld hp hq
  · rcases Predicate.mem_nodes_of_fold hfold hq with hbinary | ⟨r, hr, hq⟩
    · exact Predicate.wellFormed_of_isBinary hbinary
    · exact hheld hr hq

theorem wellFormed_lonely :
    (Predicate.isNull (.property ⟨["friend", "friend"], ["name"]⟩)).WellFormed '%'
      (Compiler.friends.AsksMissing [.lonely]) := by
  have hcalls : ∀ p, Call.addPredicate p ∉ [.add .lonely, .fold .or] := by simp
  have hfold : ((fresh .friends).run [.add .lonely, .fold .or]).foldWith .and =
      some Predicate.lonely := by
    rw [foldWith, predicates_run_fresh hcalls]
    rfl
  have hq : Predicate.isNull (.property ⟨["friend", "friend"], ["name"]⟩) ∈
      Predicate.lonely.nodes := by
    simp [Predicate.lonely, Predicate.nodes, Predicate.nodesOfAll]
  exact wellFormed_of_mem_nodes hcalls (Or.inr ⟨.and, hfold⟩) hq

end Session

end Criteria
