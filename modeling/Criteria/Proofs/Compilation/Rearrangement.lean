import Criteria.Proofs.Compilation.Locality
import Criteria.Proofs.Predicate.Truth
import Mathlib.Data.List.Basic

/-!
# Order and repetition

Filters are added in some order, and each declares its fields in some order. The
rows that are selected depend on neither, and adding a filter again selects the same
rows (`Session.alike_run_add`). `Filter.Rearranges` relates two filters that read
alike and declare the same fields in another order, here and in every filter that
they hold. Such filters are compiled to predicates of the same truth values and to
the same records, in some order (`Compiler.alike_compile`).
-/

namespace Criteria

mutual

/-- The filters declare the same fields, maybe in another order, and read alike. -/
inductive Filter.Rearranges : Filter → Filter → Prop
  | intro {f g : Filter} (hfields : f.fields.Perm g.fields)
      (hread : ∀ name, ReadsAlike (f.read name) (g.read name)) : Filter.Rearranges f g

/-- The same is read, but for the order in which a nested filter declares its
fields. -/
inductive ReadsAlike : Except AccessError FieldInput → Except AccessError FieldInput → Prop
  | same (outcome : Except AccessError FieldInput) : ReadsAlike outcome outcome
  | group {f g : Filter} (h : Filter.Rearranges f g) :
      ReadsAlike (.ok (.group (some f))) (.ok (.group (some g)))

end

namespace Filter

theorem rearranges_refl (f : Filter) : f.Rearranges f :=
  .intro (List.Perm.refl _) fun _ => .same _

/-- Another order of the declared fields leaves the accessor alone. -/
theorem rearranges_of_perm {name : String} {fields fields' : List FieldDescriptor}
    {slots : List (String × Slot)} (h : fields.Perm fields') :
    (mk name fields slots).Rearranges (mk name fields' slots) :=
  .intro h fun _ => .same _

/-- A nested filter may be rearranged in its place. -/
theorem rearranges_of_group {name field : String} {fields fields' : List FieldDescriptor}
    {slots : List (String × Slot)} {f g : Filter} (hfields : fields.Perm fields')
    (h : f.Rearranges g) :
    (mk name fields ((field, .group (some f)) :: slots)).Rearranges
      (mk name fields' ((field, .group (some g)) :: slots)) := by
  refine .intro hfields fun other => ?_
  by_cases hother : other = field
  · subst hother
    have hread (fields : List FieldDescriptor) (h : Filter) :
        (mk name fields ((other, .group (some h)) :: slots)).read other =
          .ok (.group (some h)) := by
      simp [read, Filter.slots]
    rw [hread, hread]
    exact .group h
  · rw [read_cons_of_ne hother, read_cons_of_ne hother]
    exact .same ((mk name fields slots).read other)

/-- The same filters up to order and repetition, each with its fields in any order. -/
def SameMembers (fs gs : List Filter) : Prop :=
  (∀ f ∈ fs, ∃ g ∈ gs, f.Rearranges g) ∧ ∀ g ∈ gs, ∃ f ∈ fs, f.Rearranges g

/-- The filters pair off, up to the order in which each declares its fields. -/
def Reorders (fs gs : List Filter) : Prop :=
  ∃ pairs : List (Filter × Filter), (∀ p ∈ pairs, p.1.Rearranges p.2) ∧
    fs.Perm (pairs.map Prod.fst) ∧ (pairs.map Prod.snd).Perm gs

theorem sameMembers_of_reorders {fs gs : List Filter} (h : Reorders fs gs) :
    SameMembers fs gs := by
  obtain ⟨pairs, hpairs, hfs, hgs⟩ := h
  constructor
  · intro f hf
    obtain ⟨p, hp, rfl⟩ := List.mem_map.mp (hfs.mem_iff.mp hf)
    exact ⟨p.2, hgs.mem_iff.mp (List.mem_map_of_mem hp), hpairs p hp⟩
  · intro g hg
    obtain ⟨p, hp, rfl⟩ := List.mem_map.mp (hgs.mem_iff.mpr hg)
    exact ⟨p.1, hfs.mem_iff.mpr (List.mem_map_of_mem hp), hpairs p hp⟩

end Filter

namespace Contribution

/-- Predicates of the same truth values and the same records, in some order. -/
structure Alike (t u : Contribution) : Prop where
  truths : ∀ d row, (t.predicates.map (Predicate.holds d row)).Perm
    (u.predicates.map (Predicate.holds d row))
  skips : t.skips.Perm u.skips

theorem alike_refl (t : Contribution) : t.Alike t :=
  ⟨fun _ _ => List.Perm.refl _, List.Perm.refl _⟩

theorem alike_append {t u t' u' : Contribution} (h : t.Alike u) (h' : t'.Alike u') :
    (t ++ t').Alike (u ++ u') := by
  constructor
  · intro d row
    rw [predicates_append, predicates_append, List.map_append, List.map_append]
    exact (h.truths d row).append (h'.truths d row)
  · exact h.skips.append h'.skips

/-- Contributions may be joined in any order. -/
theorem alike_join_of_perm {ts us : List Contribution} (h : ts.Perm us) :
    (join ts).Alike (join us) := by
  constructor
  · intro d row
    rw [predicates_join, predicates_join]
    exact (h.flatMap_right _).map _
  · rw [skips_join, skips_join]
    exact h.flatMap_right _

theorem alike_trans {t u v : Contribution} (h : t.Alike u) (h' : u.Alike v) : t.Alike v :=
  ⟨fun d row => (h.truths d row).trans (h'.truths d row), h.skips.trans h'.skips⟩

theorem alike_join_map {α : Type} {F G : α → Contribution} {xs : List α}
    (h : ∀ x ∈ xs, (F x).Alike (G x)) : (join (xs.map F)).Alike (join (xs.map G)) := by
  induction xs with
  | nil => exact alike_refl _
  | cons x xs ih =>
      rw [List.map_cons, List.map_cons, join_cons, join_cons]
      have hx := h x List.mem_cons_self
      exact alike_append hx (ih fun y hy => h y (List.mem_cons_of_mem x hy))

/-- The fold of a group is as true as that of its rearrangement. -/
theorem alike_folded {t u : Contribution} (h : t.Alike u) (operator : Operator)
    (field : String) : (t.folded operator field).Alike (u.folded operator field) := by
  constructor
  · intro d row
    have hfold : (operator.fold t.predicates).map (Predicate.holds d row) =
        (operator.fold u.predicates).map (Predicate.holds d row) := by
      rw [Predicate.map_holds_fold, Predicate.map_holds_fold]
      exact operator.settle_congr fun b => (h.truths d row).mem_iff
    rw [folded, folded, ← Option.toList_map, ← Option.toList_map, hfold]
  · exact h.skips.map _

end Contribution

namespace Compiler

variable {ι : Type} (T : Compiler ι)

/-- A field contributes alike, if the nested filters do. -/
theorem alike_compileField {follow : Filter → Option Contribution}
    (hfollow : ∀ f g, f.Rearranges g → Option.Rel Contribution.Alike (follow f) (follow g))
    {f g : Filter} {d : FieldDescriptor} (h : ReadsAlike (f.read d.name) (g.read d.name)) :
    (T.compileField follow f d).Alike (T.compileField follow g d) := by
  generalize hf : f.read d.name = before at h
  generalize hg : g.read d.name = after at h
  cases h with
  | same =>
      rw [T.compileField_congr follow (hg.trans hf.symm)]
      exact Contribution.alike_refl _
  | group hnested =>
      rename_i f' g'
      cases hrole : d.tags.role with
      | group operator =>
          rw [T.compileField_of_nested? follow (Filter.nested?_eq_some_iff.mpr ⟨hrole, hf⟩),
            T.compileField_of_nested? follow (Filter.nested?_eq_some_iff.mpr ⟨hrole, hg⟩)]
          have hrel := hfollow f' g' hnested
          generalize follow f' = t at hrel
          generalize follow g' = u at hrel
          cases hrel with
          | none => exact Contribution.alike_refl _
          | some hcontent => exact Contribution.alike_folded hcontent operator d.name
      | _ =>
          have hmetadata : d.metadata.role = _ := hrole
          rw [compileField, compileField, hf, hg]
          simp only [compileInput, constraint, hmetadata]
          exact Contribution.alike_refl _

theorem alike_compileFields {follow : Filter → Option Contribution}
    (hfollow : ∀ f g, f.Rearranges g → Option.Rel Contribution.Alike (follow f) (follow g))
    {f g : Filter} (h : f.Rearranges g) :
    (T.compileFields follow f).Alike (T.compileFields follow g) := by
  -- The fields are compiled one by one and then put into the other order.
  cases h with
  | intro hperm hread =>
      refine Contribution.alike_trans ?_ (Contribution.alike_join_of_perm (hperm.map _))
      exact Contribution.alike_join_map fun d _ => T.alike_compileField hfollow (hread d.name)

/-- Rearranged filters are compiled alike, down to every level. -/
theorem alike_compile {f g : Filter} (h : f.Rearranges g) (levels : Nat) :
    (T.compile levels f).Alike (T.compile levels g) := by
  induction levels generalizing f g with
  | zero => exact T.alike_compileFields (fun _ _ _ => .none) h
  | succ levels ih => exact T.alike_compileFields (fun _ _ hnested => .some (ih hnested)) h

end Compiler

namespace Session

variable {ι : Type}

theorem contents_run_add (s : Session ι) (fs : List Filter) :
    (s.run (fs.map .add)).contents =
      s.contents ++ .join (fs.map fun f => s.compiler.compile s.levels f) := by
  induction fs generalizing s with
  | nil => exact (Contribution.append_empty _).symm
  | cons f fs ih =>
      rw [List.map_cons, run_cons, call, ih, contents_add, compiler_add, levels_add,
        List.map_cons, Contribution.join_cons, Contribution.append_assoc]

theorem predicates_run_add (s : Session ι) (fs : List Filter) :
    (s.run (fs.map .add)).predicates =
      s.predicates ++ fs.flatMap fun f => (s.compiler.compile s.levels f).predicates := by
  have h := congrArg Contribution.predicates (contents_run_add s fs)
  rw [Contribution.predicates_append, Contribution.predicates_join, List.flatMap_map] at h
  exact h

/-- A filter that may stand for another one adds no other truth value. -/
theorem mem_truths_of_rearranges {s : Session ι} {fs gs : List Filter}
    (h : ∀ f ∈ fs, ∃ g ∈ gs, f.Rearranges g ∨ g.Rearranges f) (d : Dialect) (row : Row) {b : Bool}
    (hb : b ∈ (s.run (fs.map .add)).predicates.map (Predicate.holds d row)) :
    b ∈ (s.run (gs.map .add)).predicates.map (Predicate.holds d row) := by
  rw [predicates_run_add, List.map_append, List.map_flatMap] at hb ⊢
  rcases List.mem_append.mp hb with hb | hb
  · exact List.mem_append_left _ hb
  · obtain ⟨f, hf, hb⟩ := List.mem_flatMap.mp hb
    obtain ⟨g, hg, hfg⟩ := h f hf
    refine List.mem_append_right _ (List.mem_flatMap.mpr ⟨g, hg, ?_⟩)
    rcases hfg with hfg | hgf
    · exact ((s.compiler.alike_compile hfg _).truths d row).mem_iff.mp hb
    · exact ((s.compiler.alike_compile hgf _).truths d row).mem_iff.mpr hb

/-- The rows that a session selects depend neither on the order in which filters are
added, nor on how often, nor on the order of the fields in any of them. Where filters
and fields are reordered only, the records are the same up to their order. -/
theorem alike_run_add (s : Session ι) (fs gs : List Filter) :
    (Filter.SameMembers fs gs → ∀ operator d row,
        ((s.run (fs.map .add)).foldWith operator).map (Predicate.holds d row) =
          ((s.run (gs.map .add)).foldWith operator).map (Predicate.holds d row)) ∧
      (Filter.Reorders fs gs → Filter.SameMembers fs gs ∧
        (s.run (fs.map .add)).diagnostics.Perm (s.run (gs.map .add)).diagnostics) := by
  constructor
  · rintro ⟨hleft, hright⟩ operator d row
    rw [foldWith, foldWith, Predicate.map_holds_fold, Predicate.map_holds_fold]
    refine operator.settle_congr fun b => ⟨?_, ?_⟩
    · apply mem_truths_of_rearranges
      intro f hf
      obtain ⟨g, hg, hfg⟩ := hleft f hf
      exact ⟨g, hg, .inl hfg⟩
    · apply mem_truths_of_rearranges
      intro g hg
      obtain ⟨f, hf, hfg⟩ := hright g hg
      exact ⟨f, hf, .inr hfg⟩
  · intro h
    refine ⟨Filter.sameMembers_of_reorders h, ?_⟩
    obtain ⟨pairs, hpairs, hfs, hgs⟩ := h
    have hcontents : (s.run (fs.map .add)).contents.Alike (s.run (gs.map .add)).contents := by
      rw [contents_run_add, contents_run_add]
      refine Contribution.alike_append (Contribution.alike_refl _) ?_
      refine Contribution.alike_trans (Contribution.alike_join_of_perm (hfs.map _)) ?_
      refine Contribution.alike_trans ?_ (Contribution.alike_join_of_perm (hgs.map _))
      rw [List.map_map, List.map_map]
      exact Contribution.alike_join_map fun p hp => s.compiler.alike_compile (hpairs p hp) _
    exact hcontents.skips

end Session

/-- The search with the fields of every filter in it declared backwards. -/
def Filter.searchBackwards (nick : Slot) : Filter :=
  .mk "Search" [⟨"lost", {}⟩, ⟨"either", { group := some .or }⟩]
    [("either", .group (some (.mk "Nicknamed" [⟨"age", {}⟩, ⟨"name", {}⟩, ⟨"nick", {}⟩]
      [("nick", nick), ("name", .value (.text "Ann")), ("age", .value .null)])))]

theorem Filter.rearranges_searchBackwards (nick : Slot) :
    (search nick).Rearranges (searchBackwards nick) := by
  exact rearranges_of_group (List.reverse_perm _).symm
    (rearranges_of_perm (List.reverse_perm _).symm)

/-- Ann is selected however often and in whatever order she is asked for. -/
theorem Session.alike_run_add_search :
    Filter.SameMembers [.search (.broken "lost"), .nicknamed (.broken "lost")]
        [.nicknamed (.broken "lost"), .searchBackwards (.broken "lost"),
          .nicknamed (.broken "lost")] ∧
      (((fresh .friends).run ([.nicknamed (.broken "lost"), .searchBackwards (.broken "lost"),
        .nicknamed (.broken "lost")].map .add)).foldWith .and).map
          (Predicate.holds Compiler.friends.dialect .ann) = some true ∧
      Filter.Reorders [.search (.broken "lost"), .nicknamed (.broken "lost")]
        [.nicknamed (.broken "lost"), .searchBackwards (.broken "lost")] ∧
      ((fresh .friends).run ([.search (.broken "lost"), .nicknamed (.broken "lost")].map
          .add)).diagnostics.Perm
        ((fresh .friends).run ([.nicknamed (.broken "lost"),
          .searchBackwards (.broken "lost")].map .add)).diagnostics := by
  have hsearch := Filter.rearranges_searchBackwards (.broken "lost")
  have hnicknamed := Filter.rearranges_refl (.nicknamed (.broken "lost"))
  have hmembers : Filter.SameMembers [.search (.broken "lost"), .nicknamed (.broken "lost")]
      [.nicknamed (.broken "lost"), .searchBackwards (.broken "lost"),
        .nicknamed (.broken "lost")] := by
    simp [Filter.SameMembers, hsearch, hnicknamed]
  have hreorders : Filter.Reorders [.search (.broken "lost"), .nicknamed (.broken "lost")]
      [.nicknamed (.broken "lost"), .searchBackwards (.broken "lost")] := by
    refine ⟨[(.search (.broken "lost"), .searchBackwards (.broken "lost")),
      (.nicknamed (.broken "lost"), .nicknamed (.broken "lost"))], ?_, List.Perm.refl _,
      List.Perm.swap _ _ []⟩
    simp [hsearch, hnicknamed]
  obtain ⟨hrows, -⟩ := alike_run_add (fresh .friends)
    [.search (.broken "lost"), .nicknamed (.broken "lost")]
    [.nicknamed (.broken "lost"), .searchBackwards (.broken "lost"), .nicknamed (.broken "lost")]
  obtain ⟨-, hrecords⟩ := alike_run_add (fresh .friends)
    [.search (.broken "lost"), .nicknamed (.broken "lost")]
    [.nicknamed (.broken "lost"), .searchBackwards (.broken "lost")]
  refine ⟨hmembers, (hrows hmembers .and _ _).symm.trans ?_, hreorders, (hrecords hreorders).2⟩
  rw [foldWith, predicates_run_add]
  rfl

end Criteria
