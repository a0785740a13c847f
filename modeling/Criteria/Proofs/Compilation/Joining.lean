import Criteria.Proofs.Compilation.Reference
import Criteria.Proofs.Predicate.Renaming
import Criteria.Proofs.Schema.Joining

/-!
# Fields with and without a join

A field that is tagged as a join constrains the same stored value as the field without
the tag. A property that is reached through joins is reached by navigation too, so the
untagged field emits a predicate wherever the tagged one does. It is the same predicate
with its reference flattened, and rows that go by dotted names hold the two alike.
-/

namespace Criteria

/-- No tag settles the field on another role than a plain comparison. -/
structure FieldTags.HasNoRole (tags : FieldTags) : Prop where
  between : tags.between = none
  join : tags.join = false
  group : tags.group = none
  period : tags.period = none

namespace FieldTags.HasNoRole

variable {tags : FieldTags} (h : tags.HasNoRole)
include h

theorem role_eq : tags.role = .leaf := by
  simp only [FieldTags.role, h.between, h.join, h.group, h.period]

theorem role_join : { tags with join := true }.role = .join := by
  simp only [FieldTags.role, h.between]

/-- Apart from the role, the tag changes nothing of what is declared. -/
theorem metadata_eq (name : String) :
    (FieldDescriptor.mk name tags).metadata =
      { (FieldDescriptor.mk name { tags with join := true }).metadata with role := .leaf } := by
  simp only [FieldDescriptor.metadata, h.role_eq]

end FieldTags.HasNoRole

namespace Compiler

variable {ι : Type} {T : Compiler ι} {nested : Operator → Filter → Option Predicate}
  {m : FieldMetadata} {p : Predicate}

/-- A property that is reached through joins is also reached by navigation. -/
theorem navigated?_of_joined? {text : String} {ref : PropertyRef} (h : T.joined? text = some ref) :
    T.navigated? text = some ref.flat := by
  obtain ⟨path, hpath, h⟩ := Option.bind_eq_some_iff.mp h
  obtain ⟨joined, hjoined, rfl⟩ := Option.map_eq_some_iff.mp h
  have hok := eq_ok_of_toOption hjoined
  obtain ⟨hnested, -⟩ := Schema.reference_of_resolveJoin hok
  obtain ⟨resolved, hresolve, -, rfl⟩ := (Schema.resolveJoin_eq_ok_iff_resolve hnested).mp hok
  rw [navigated?, hpath, Option.bind_some, hresolve]
  exact congrArg some (Schema.reference_of_resolve hresolve)

/-- A join takes an interest in values only. -/
theorem exists_value_of_join {input : FieldInput} (hrole : m.role = .join)
    (h : T.inputEmission? nested m input = some p) : ∃ v, input = .value v := by
  simp only [inputEmission?, hrole] at h
  split at h
  · exact ⟨_, rfl⟩
  · cases h
  · cases h
  · cases h

/-- What an input emits under a join, it emits without one, the reference being
flattened. -/
theorem inputEmission?_of_join {input : FieldInput} (hrole : m.role = .join)
    (h : T.inputEmission? nested m input = some p) :
    T.inputEmission? nested { m with role := .leaf } input = some (p.rename .flat) := by
  obtain ⟨v, rfl⟩ := exists_value_of_join hrole h
  simp only [inputEmission?, target?, hrole] at h ⊢
  split at h
  · cases h
  · rename_i hset
    obtain ⟨ref, href, hleaf⟩ := Option.bind_eq_some_iff.mp h
    rw [if_neg hset, navigated?_of_joined? href, Option.bind_some, T.dialect.leaf_rename .flat,
      eq_ok_of_toOption hleaf]
    rfl

theorem emission?_of_join {tags : FieldTags} (htags : tags.HasNoRole) {f : Filter} {name : String}
    (h : T.emission? nested f ⟨name, { tags with join := true }⟩ = some p) :
    T.emission? nested f ⟨name, tags⟩ = some (p.rename .flat) := by
  obtain ⟨input, hread, hinput⟩ := Option.bind_eq_some_iff.mp h
  rw [emission?, hread, Option.bind_some, htags.metadata_eq]
  exact inputEmission?_of_join htags.role_join hinput

/-- Joins and navigation agree on every path with several segments, and so do the fields
that go one way and the other. -/
theorem joins_agree_with_navigation (T : Compiler ι) :
    (∀ path : PropertyPath, 1 < path.segments.length →
      T.schema.JoinsBesideNavigation T.root path) ∧
    ∀ (follow : Filter → Option Contribution) (f : Filter) (name : String) (tags : FieldTags),
      tags.HasNoRole →
      ∀ p ∈ (T.compileField follow f ⟨name, { tags with join := true }⟩).predicates,
        ∃ q, (T.compileField follow f ⟨name, tags⟩).predicates = [q] ∧
          ∀ (d : Dialect) (columns : String → Option Value),
            q.holds d (.ofDotted columns) = p.holds d (.ofDotted columns) := by
  refine ⟨fun path hpath => T.schema.joinsBesideNavigation T.root hpath, ?_⟩
  intro follow f name tags htags p hp
  rw [T.predicates_compileField (fun _ _ => rfl), Option.mem_toList] at hp
  refine ⟨p.rename .flat, ?_, fun d columns => p.holds_rename_flat d columns⟩
  rw [T.predicates_compileField (fun _ _ => rfl), emission?_of_join htags hp]
  rfl

end Compiler

/-- The name of a friend's friend, which may be asked to be missing. -/
def FieldTags.secondName : FieldTags := { property := some "friend.friend.name", nullable := true }

/-- Persons with a friend whose friend has no name. -/
def Filter.nameless : Filter := .mk "Nameless" [⟨"second", .secondName⟩] [("second", .value .null)]

theorem Compiler.joins_agree_on_friends :
    Schema.friends.JoinsBesideNavigation () ⟨["friend", "friend"], "name"⟩ ∧
      ∃ p ∈ (friends.compileField (fun _ => none) .nameless
          ⟨"second", { FieldTags.secondName with join := true }⟩).predicates,
        ∃ q, (friends.compileField (fun _ => none) .nameless
            ⟨"second", .secondName⟩).predicates = [q] ∧
          ∀ (d : Dialect) (columns : String → Option Value),
            q.holds d (.ofDotted columns) = p.holds d (.ofDotted columns) := by
  obtain ⟨hpaths, hfields⟩ := friends.joins_agree_with_navigation
  have hnested : 1 < (PropertyPath.mk ["friend", "friend"] "name").segments.length := by decide
  have htags : FieldTags.secondName.HasNoRole := ⟨rfl, rfl, rfl, rfl⟩
  have hp : .isNull (.property ⟨["friend", "friend"], ["name"]⟩) ∈
      (friends.compileField (fun _ => none) .nameless
        ⟨"second", { FieldTags.secondName with join := true }⟩).predicates :=
    List.mem_singleton_self _
  exact ⟨hpaths _ hnested, _, hp, hfields _ _ _ _ htags _ hp⟩

end Criteria
