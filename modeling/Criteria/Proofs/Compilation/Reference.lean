import Criteria.Proofs.Compilation.Run
import Criteria.Proofs.Compilation.Source
import Criteria.Proofs.Predicate.Leaf
import Criteria.Proofs.Schema.RoundTrip

/-!
# References in compiled predicates

A storage layer takes the references in a predicate at their word. They have all
been looked up in the schema: the dotted name of a reference reads as a path, and
resolving that path again, by navigation or through joins, gives the reference
back.
-/

namespace Criteria

/-- The dotted name of the reference resolves to the reference. -/
def Schema.Validates {ι : Type} (S : Schema ι) (root : ι) (ref : PropertyRef) : Prop :=
  ∃ path resolved, PropertyPath.parse ref.dotted = .ok path ∧
    (if ref.joins = [] then S.resolve root path else S.resolveJoin root path) = .ok resolved ∧
    resolved.reference = ref

namespace Schema

variable {ι : Type} {S : Schema ι} {root : ι}

theorem reference_of_resolve {path : PropertyPath} {resolved : Resolved ι}
    (h : S.resolve root path = .ok resolved) : resolved.reference = .navigate path.segments := by
  unfold resolve at h
  cases hwalk : S.walk .navigation root path with
  | error e => rw [hwalk] at h; cases h
  | ok found => rw [hwalk] at h; cases h; rfl

theorem reference_of_resolveJoin {path : PropertyPath} {resolved : Resolved ι}
    (h : S.resolveJoin root path = .ok resolved) :
    path.parents ≠ [] ∧ resolved.reference = ⟨path.parents, [path.leaf]⟩ := by
  unfold resolveJoin at h
  split at h
  · cases h
  · rename_i hparents
    cases hwalk : S.walk .joining root path with
    | error e => rw [hwalk] at h; cases h
    | ok found =>
        rw [hwalk] at h
        cases h
        exact ⟨by simpa using hparents, rfl⟩

end Schema

namespace Compiler

variable {ι : Type} {T : Compiler ι}

theorem joins_of_navigated? {text : String} {ref : PropertyRef}
    (h : T.navigated? text = some ref) : ref.joins = [] := by
  obtain ⟨path, _, h⟩ := Option.bind_eq_some_iff.mp h
  obtain ⟨resolved, hresolved, rfl⟩ := Option.map_eq_some_iff.mp h
  rw [Schema.reference_of_resolve (eq_ok_of_toOption hresolved)]
  rfl

theorem validates_of_navigated? {text : String} {ref : PropertyRef}
    (h : T.navigated? text = some ref) : T.schema.Validates T.root ref := by
  have hjoins := joins_of_navigated? h
  obtain ⟨path, hpath, h⟩ := Option.bind_eq_some_iff.mp h
  obtain ⟨resolved, hresolved, rfl⟩ := Option.map_eq_some_iff.mp h
  have hok := eq_ok_of_toOption hresolved
  have href := Schema.reference_of_resolve hok
  have hdotted : resolved.reference.dotted = path.toText := by rw [href]; rfl
  refine ⟨path, resolved, ?_, ?_, rfl⟩
  · rw [hdotted]
    exact PropertyPath.parse_toText (eq_ok_of_toOption hpath)
  · rw [if_pos hjoins]
    exact hok

theorem validates_of_joined? {text : String} {ref : PropertyRef}
    (h : T.joined? text = some ref) : T.schema.Validates T.root ref := by
  obtain ⟨path, hpath, h⟩ := Option.bind_eq_some_iff.mp h
  obtain ⟨resolved, hresolved, rfl⟩ := Option.map_eq_some_iff.mp h
  have hok := eq_ok_of_toOption hresolved
  obtain ⟨hparents, href⟩ := Schema.reference_of_resolveJoin hok
  have hdotted : resolved.reference.dotted = path.toText := by rw [href]; rfl
  have hjoins : resolved.reference.joins ≠ [] := by rw [href]; exact hparents
  refine ⟨path, resolved, ?_, ?_, rfl⟩
  · rw [hdotted]
    exact PropertyPath.parse_toText (eq_ok_of_toOption hpath)
  · rw [if_neg hjoins]
    exact hok

theorem validates_of_target? {m : FieldMetadata} {ref : PropertyRef}
    (h : T.target? m = some ref) : T.schema.Validates T.root ref := by
  unfold target? at h
  split at h
  · exact validates_of_navigated? h
  · exact validates_of_joined? h
  · cases h

/-- A reference in what a field made of its own input has been looked up. -/
theorem validates_of_makes {m : FieldMetadata} {input : FieldInput} {r q : Predicate}
    {ref : PropertyRef} (hmakes : T.Makes m input r) (hq : q ∈ r.nodes) (href : ref ∈ q.ownRefs) :
    T.schema.Validates T.root ref := by
  cases hmakes with
  | leaf _ _ _ htarget hleaf =>
      have hbuilds := Dialect.builds_of_leaf hleaf
      rw [hbuilds.nodes_eq, List.mem_singleton] at hq
      rw [hq, hbuilds.ownRefs_eq, List.mem_singleton] at href
      rw [href]
      exact validates_of_target? htarget
  | range _ hlower hupper =>
      obtain rfl := List.mem_singleton.mp hq
      rcases List.mem_pair.mp href with rfl | rfl
      · exact validates_of_navigated? hlower
      · exact validates_of_navigated? hupper
  | period _ hlower hupper =>
      -- The disjunction itself holds no reference, and each of its sides holds one.
      rcases Predicate.mem_nodes_combine.mp hq with rfl | hq | hq
      · cases href
      · obtain rfl := List.mem_singleton.mp hq
        obtain rfl := List.mem_singleton.mp href
        exact validates_of_navigated? hlower
      · obtain rfl := List.mem_singleton.mp hq
        obtain rfl := List.mem_singleton.mp href
        exact validates_of_navigated? hupper

/-- A reference in a compiled predicate has been looked up. -/
theorem validates_of_compile {levels : Nat} {f : Filter} {p : Predicate} {ref : PropertyRef}
    (hp : p ∈ (T.compile levels f).predicates) (href : ref ∈ p.refs) :
    T.schema.Validates T.root ref := by
  obtain ⟨q, hq, href⟩ := List.mem_flatMap.mp href
  rcases isBinary_or_yields_of_compile hp hq with hbinary | ⟨d, input, r, _, hmakes, hq⟩
  · rw [Predicate.ownRefs_of_isBinary hbinary] at href
    cases href
  · exact validates_of_makes hmakes hq href

end Compiler

/-- Every reference held by a session that was only fed with filters has been
looked up. -/
theorem Session.validates_of_mem_refs {ι : Type} {T : Compiler ι} {calls : List Call}
    (hcalls : ∀ p, .addPredicate p ∉ calls) {p : Predicate}
    (hp : p ∈ ((fresh T).run calls).predicates) {ref : PropertyRef} (href : ref ∈ p.refs) :
    T.schema.Validates T.root ref := by
  obtain ⟨f, _, hp⟩ := mem_predicates_run_fresh hcalls hp
  exact Compiler.validates_of_compile hp href

/-- Persons called Ann, or with a friend whose friend has no name. -/
def Filter.lonely : Filter :=
  .mk "Lonely" [⟨"either", { group := some .or }⟩]
    [("either", .group (some (.mk "Either"
      [⟨"name", {}⟩,
       ⟨"second", { property := some "friend.friend.name", nullable := true, join := true }⟩]
      [("name", .value (.text "Ann")), ("second", .value .null)])))]

/-- The predicate of such persons. -/
def Predicate.lonely : Predicate :=
  .or [.compare (.property ⟨[], ["name"]⟩) .eq (.text "Ann"),
    .isNull (.property ⟨["friend", "friend"], ["name"]⟩)]

theorem Session.validates_lonely :
    ∃ p ∈ ((fresh .friends).run [.add .lonely, .clear, .add .lonely]).predicates,
      ∃ ref ∈ p.refs, ref.joins = ["friend", "friend"] ∧ Schema.friends.Validates () ref := by
  have hcalls : ∀ p, Call.addPredicate p ∉ [.add .lonely, .clear, .add .lonely] := by simp
  have hp : Predicate.lonely ∈
      ((fresh .friends).run [.add .lonely, .clear, .add .lonely]).predicates := by
    rw [predicates_run_fresh hcalls]
    exact List.mem_singleton_self Predicate.lonely
  have href : ⟨["friend", "friend"], ["name"]⟩ ∈ Predicate.lonely.refs := by decide
  exact ⟨_, hp, _, href, rfl, validates_of_mem_refs hcalls hp href⟩

end Criteria
