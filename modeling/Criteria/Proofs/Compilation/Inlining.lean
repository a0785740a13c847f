import Criteria.Proofs.Compilation.Limit
import Criteria.Proofs.Compilation.Muting
import Criteria.Proofs.Predicate.Truth

/-!
# Groups inlined

A group is compiled apart and folded by its own operator. Where the level around it
is folded by the same one, its fields might as well stand there themselves: the same
rows are selected (`Session.map_holds_foldWith_of_inlines`). `Filter.Inlines` says
that in one place of a filter, maybe inside of other groups, a group field has given
way to the fields of the filter that it holds, each of them still read from there.
-/

namespace Criteria

namespace Filter

/-- A declared field as far as it counts: its declaration without its name, and its
input, if it can be read. -/
def reading (f : Filter) (d : FieldDescriptor) : FieldMetadata × Option FieldInput :=
  ({ d.metadata with field := "" }, (f.read d.name).toOption)

def readings (f : Filter) : List (FieldMetadata × Option FieldInput) := f.fields.map f.reading

/-- The second filter is the first one with a group field replaced by the fields of
the filter in it. The operator is the one that folds the first filter, and the group
has the operator that folds the level on which it stands. -/
inductive Inlines : Operator → Filter → Filter → Prop
  | here {operator : Operator} {f h g : Filter} {m : FieldMetadata}
      {before after : List (FieldMetadata × Option FieldInput)}
      (hrole : m.role = .group operator)
      (hf : f.readings = before ++ (m, some (.group (some g))) :: after)
      (hh : h.readings = before ++ g.readings ++ after) : Inlines operator f h
  | inside {operator inner : Operator} {f h g g' : Filter} {m : FieldMetadata}
      {before after : List (FieldMetadata × Option FieldInput)}
      (hrole : m.role = .group inner)
      (hf : f.readings = before ++ (m, some (.group (some g))) :: after)
      (hh : h.readings = before ++ (m, some (.group (some g'))) :: after)
      (hinner : Inlines inner g g') : Inlines operator f h

/-- A reading that holds a filter belongs to a group field. -/
theorem exists_nested_of_mem_readings {f g : Filter} {m : FieldMetadata} {operator : Operator}
    (hrole : m.role = .group operator) (h : (m, some (.group (some g))) ∈ f.readings) :
    ∃ d ∈ f.fields, f.nested? d = some (operator, g) := by
  obtain ⟨d, hd, hreading⟩ := List.mem_map.mp h
  obtain ⟨hm, hinput⟩ := Prod.mk.inj hreading
  refine ⟨d, hd, nested?_eq_some_iff.mpr ⟨?_, eq_ok_of_toOption hinput⟩⟩
  rw [← hrole, ← hm]
  rfl

theorem depth_lt_of_mem_readings {f g : Filter} {m : FieldMetadata} {operator : Operator}
    {n : Nat} (hn : f.depth ≤ n) (hrole : m.role = .group operator)
    (h : (m, some (.group (some g))) ∈ f.readings) : g.depth < n := by
  obtain ⟨d, hd, hnested⟩ := exists_nested_of_mem_readings hrole h
  exact depth_le_iff.mp hn d hd operator g hnested

/-- A filter in which no group is too deep has no more levels than are followed. -/
theorem depth_le_of_visits {levels : Nat} {f : Filter}
    (h : ∀ v ∈ f.visits levels, v.isTooDeep = false) : f.depth ≤ levels := by
  induction levels generalizing f with
  | zero =>
      rw [depth_le_iff]
      intro d hd operator g hnested
      have hv := h ⟨[], f, d, 0⟩ (List.mem_map_of_mem hd)
      rw [Visit.isTooDeep, hnested] at hv
      cases hv
  | succ levels ih =>
      rw [depth_le_iff]
      intro d hd operator g hnested
      refine Nat.lt_succ_of_le (ih fun v hv => ?_)
      refine h (v.under d.name) (List.mem_flatMap.mpr ⟨d, hd, List.mem_cons_of_mem _ ?_⟩)
      rw [hnested]
      exact List.mem_map_of_mem hv

/-- The filter with the fields of another one in the place of a field, all of them
read by the accessor of the one that they come from. -/
def splice (f g : Filter) (before after : List FieldDescriptor) : Filter :=
  .mk f.name (before ++ g.fields ++ after) (g.slots ++ f.slots)

theorem toOption_read_splice_left {f g : Filter} {before after : List FieldDescriptor}
    {name : String} (h : g.slots.lookup name = none) :
    ((f.splice g before after).read name).toOption = (f.read name).toOption := by
  have hlookup : (f.splice g before after).slots.lookup name = f.slots.lookup name := by
    change (g.slots ++ f.slots).lookup name = _
    rw [List.lookup_append, h, Option.none_or]
  rw [read, read, hlookup]
  cases f.slots.lookup name with
  | none => rfl
  | some slot => cases slot <;> rfl

theorem toOption_read_splice_right {f g : Filter} {before after : List FieldDescriptor}
    {name : String} (h : g.slots.lookup name = none → f.slots.lookup name = none) :
    ((f.splice g before after).read name).toOption = (g.read name).toOption := by
  have hlookup : (f.splice g before after).slots.lookup name = g.slots.lookup name := by
    change (g.slots ++ f.slots).lookup name = _
    rw [List.lookup_append]
    cases hg : g.slots.lookup name with
    | none => rw [h hg]; rfl
    | some slot => rfl
  rw [read, read, hlookup]
  cases g.slots.lookup name with
  | none => rfl
  | some slot => cases slot <;> rfl

/-- Where no name is taken twice, a group field gives way to the fields in it by
declaring those in its place. -/
theorem inlines_splice {f g : Filter} {d : FieldDescriptor} {operator : Operator}
    {before after : List FieldDescriptor} (hfields : f.fields = before ++ d :: after)
    (hnested : f.nested? d = some (operator, g))
    (hother : ∀ e ∈ before ++ after, g.slots.lookup e.name = none)
    (hown : ∀ e ∈ g.fields, g.slots.lookup e.name = none → f.slots.lookup e.name = none) :
    f.Inlines operator (f.splice g before after) := by
  obtain ⟨hrole, hread⟩ := nested?_eq_some_iff.mp hnested
  have hkept (e : FieldDescriptor) (he : e ∈ before ++ after) :
      (f.splice g before after).reading e = f.reading e := by
    rw [reading, reading, toOption_read_splice_left (hother e he)]
  have htaken (e : FieldDescriptor) (he : e ∈ g.fields) :
      (f.splice g before after).reading e = g.reading e := by
    rw [reading, reading, toOption_read_splice_right (hown e he)]
  have hf : f.readings = before.map f.reading ++
      ({ d.metadata with field := "" }, some (.group (some g))) :: after.map f.reading := by
    rw [readings, hfields, List.map_append, List.map_cons, reading, hread]
    rfl
  have hh : (f.splice g before after).readings =
      before.map f.reading ++ g.readings ++ after.map f.reading := by
    change (before ++ g.fields ++ after).map _ = _
    rw [List.map_append, List.map_append, readings, List.map_congr_left htaken]
    rw [List.map_congr_left fun e he => hkept e (List.mem_append_left _ he)]
    rw [List.map_congr_left fun e he => hkept e (List.mem_append_right _ he)]
  exact .here hrole hf hh

end Filter

namespace Compiler

variable {ι : Type} (T : Compiler ι) (d : Dialect) (row : Row)

/-- Truth of what a field emits as it is read. -/
def readingTruth? (levels : Nat) (r : FieldMetadata × Option FieldInput) : Option Bool :=
  (r.2.bind (T.inputEmission? (T.nestedEmission? levels) r.1)).map (Predicate.holds d row)

/-- Names are of no account for the truth of what is compiled. -/
theorem map_holds_compile_eq_readings (levels : Nat) (f : Filter) :
    (T.compile levels f).predicates.map (Predicate.holds d row) =
      f.readings.flatMap fun r => (T.readingTruth? d row levels r).toList := by
  rw [predicates_compile, List.map_filterMap, List.filterMap_eq_flatMap_toList, Filter.readings,
    List.flatMap_map]
  rfl

/-- A group is as true as its operator makes the fields in it, one level further
down. -/
theorem readingTruth?_group {levels : Nat} {m : FieldMetadata} {operator : Operator}
    {g : Filter} (hrole : m.role = .group operator) :
    T.readingTruth? d row (levels + 1) (m, some (.group (some g))) =
      operator.settle ((T.compile levels g).predicates.map (Predicate.holds d row)) := by
  rw [readingTruth?, Option.bind_some, inputEmission?, hrole, ← Predicate.map_holds_fold,
    predicates_compile]
  rfl

variable {T}

/-- Inlining a group leaves the truth of the fold as it is, where all groups are
followed. -/
theorem settle_compile_of_inlines {operator : Operator} {f h : Filter}
    (hinline : f.Inlines operator h) {levels : Nat} (hdepth : f.depth ≤ levels) :
    operator.settle ((T.compile levels h).predicates.map (Predicate.holds d row)) =
      operator.settle ((T.compile levels f).predicates.map (Predicate.holds d row)) := by
  -- The induction follows the way through the groups; each takes up a level.
  induction hinline generalizing levels with
  | @here operator f h g m before after hrole hf hh =>
      have hg : g.depth < levels := Filter.depth_lt_of_mem_readings hdepth hrole (by simp [hf])
      obtain ⟨below, rfl⟩ := Nat.exists_eq_add_one_of_ne_zero (Nat.ne_zero_of_lt hg)
      have hcompile : T.compile below g = T.compile (below + 1) g :=
        T.compile_withLimit _ _ (Nat.le_of_lt_succ hg) (Nat.le_of_lt hg)
      simp only [map_holds_compile_eq_readings T d row (below + 1), hf, hh, List.flatMap_append,
        List.flatMap_cons, T.readingTruth?_group d row hrole, hcompile]
      rw [← List.append_assoc, Operator.settle_append_settle]
  | @inside operator inner f h g g' m before after hrole hf hh hinner ih =>
      have hg : g.depth < levels := Filter.depth_lt_of_mem_readings hdepth hrole (by simp [hf])
      obtain ⟨below, rfl⟩ := Nat.exists_eq_add_one_of_ne_zero (Nat.ne_zero_of_lt hg)
      simp only [map_holds_compile_eq_readings T d row (below + 1), hf, hh, List.flatMap_append,
        List.flatMap_cons, T.readingTruth?_group d row hrole, ih (Nat.le_of_lt_succ hg)]

variable (T) in
theorem predicates_visit (v : Visit) :
    ∃ p : Option Predicate, (T.visit v).predicates = p.toList :=
  ⟨_, T.predicates_compileField (fun _ _ => rfl) v.filter v.field⟩

/-- A group in which one field contributes alone contributes what that field does,
whatever its operator. -/
theorem visit_of_filter_children {v w : Visit} (hfollows : v.follows? ≠ none)
    (hone : v.children.filter (fun c => !(T.visit c).predicates.isEmpty) = [w]) :
    ∃ p, (T.visit w).predicates = [p] ∧ (T.visit v).predicates = [p] := by
  obtain ⟨⟨operator, g⟩, hg⟩ := Option.ne_none_iff_exists'.mp hfollows
  obtain ⟨emission, hemission⟩ := T.predicates_visit w
  have hw : (!(T.visit w).predicates.isEmpty) = true := by
    have hmem : w ∈ v.children.filter fun c => !(T.visit c).predicates.isEmpty := by simp [hone]
    exact (List.mem_filter.mp hmem).2
  have hchildren : (v.children.map fun c => (T.visit c).predicates).flatten =
      (T.visit w).predicates := by
    rw [← List.flatten_filter_not_isEmpty, List.filter_map]
    change ((v.children.filter fun c => !(T.visit c).predicates.isEmpty).map _).flatten = _
    rw [hone, List.map_singleton, List.flatten_singleton]
  have hgroup : (T.visit v).predicates = (operator.fold (T.visit w).predicates).toList := by
    rw [← hchildren, T.visit_of_follows hg, Contribution.folded, Contribution.predicates_join,
      List.flatMap_map, List.flatMap_def]
  cases emission with
  | none =>
      rw [hemission] at hw
      cases hw
  | some p =>
      rw [hgroup, hemission]
      exact ⟨p, rfl, rfl⟩

variable (T) in
/-- Where no group is recorded as too deep, all groups are followed. -/
theorem depth_le_of_skips {levels : Nat} {f : Filter}
    (h : ∀ s ∈ ((T.collecting true).compile levels f).skips, s.reason.isTooDeep = false) :
    f.depth ≤ levels := by
  have hnone : ((T.collecting true).compile levels f).skips.filter (·.reason.isTooDeep) = [] := by
    rw [List.filter_eq_nil_iff]
    intro s hs
    simp [h s hs]
  rw [filter_skips_compile rfl, List.map_eq_nil_iff, List.filter_eq_nil_iff] at hnone
  apply Filter.depth_le_of_visits
  intro v hv
  exact Bool.eq_false_iff.mpr (hnone v hv)

end Compiler

namespace Session

variable {ι : Type}

/-- A group may be inlined that has the operator of the level around it, where no
group would be recorded as too deep: the same rows are selected, and there is a fold
exactly where there was one. A group in which one field contributes alone comes to
the predicate of that field. -/
theorem map_holds_foldWith_of_inlines (T : Compiler ι) (f : Filter) :
    ((∀ s ∈ ((fresh (T.collecting true)).add f).diagnostics, s.reason.isTooDeep = false) →
        ∀ operator h, f.Inlines operator h → ∀ d row,
          (((fresh T).add h).foldWith operator).map (Predicate.holds d row) =
            (((fresh T).add f).foldWith operator).map (Predicate.holds d row)) ∧
      ∀ v ∈ f.visits T.settings.maxGroupDepth, v.follows? ≠ none → ∀ w,
        v.children.filter (fun c => !(T.visit c).predicates.isEmpty) = [w] →
          ∃ p, (T.visit w).predicates = [p] ∧ (T.visit v).predicates = [p] := by
  constructor
  · intro hrecords operator h hinline d row
    rw [records_add_fresh] at hrecords
    have hdepth : f.depth ≤ T.settings.maxGroupDepth := T.depth_le_of_skips hrecords
    rw [foldWith_add_fresh, foldWith_add_fresh, Predicate.map_holds_fold,
      Predicate.map_holds_fold]
    exact Compiler.settle_compile_of_inlines d row hinline hdepth
  · intro v _ hfollows w hone
    exact Compiler.visit_of_filter_children hfollows hone

end Session

/-- A search inside of a group. -/
def Filter.searches (inner : Filter) : Filter :=
  .mk "Searches" [⟨"any", { group := some .or }⟩] [("any", .group (some inner))]

/-- The search with its group inlined. -/
def Filter.searchInlined (nick : Slot) : Filter :=
  (search nick).splice (nicknamed nick) [] [⟨"lost", {}⟩]

theorem Filter.inlines_searches (nick : Slot) :
    (searches (search nick)).Inlines .and (searches (searchInlined nick)) := by
  have hsearch : (search nick).Inlines .or (searchInlined nick) := by
    refine inlines_splice rfl rfl ?_ ?_
    · intro e he
      obtain rfl := List.mem_singleton.mp he
      rfl
    · intro e he hnone
      simp only [nicknamed, fields, List.mem_cons, List.not_mem_nil, or_false] at he
      rcases he with rfl | rfl | rfl <;> cases hnone
  have hreadings (inner : Filter) : (searches inner).readings =
      [] ++ (⟨"", "any", .equal, false, .group .or⟩, some (.group (some inner))) :: [] := rfl
  exact .inside rfl (hreadings _) (hreadings _) hsearch

theorem Session.map_holds_foldWith_of_searches :
    (∀ s ∈ ((fresh (Compiler.friends.collecting true)).add
        (.searches (.search (.broken "lost")))).diagnostics, s.reason.isTooDeep = false) ∧
      (Filter.searches (.search (.broken "lost"))).Inlines .and
        (.searches (.searchInlined (.broken "lost"))) ∧
      (((fresh .friends).add (.searches (.searchInlined (.broken "lost")))).foldWith .and).map
          (Predicate.holds Compiler.friends.dialect .ann) = some true ∧
      ∃ p,
        (Compiler.friends.visit
          ⟨["any", "either"], .nicknamed (.broken "lost"), ⟨"name", {}⟩, 30⟩).predicates = [p] ∧
        (Compiler.friends.visit
          ⟨["any"], .search (.broken "lost"), ⟨"either", { group := some .or }⟩, 31⟩).predicates =
            [p] := by
  have hrecords : ∀ s ∈ ((fresh (Compiler.friends.collecting true)).add
      (.searches (.search (.broken "lost")))).diagnostics, s.reason.isTooDeep = false := by
    rw [records_add_fresh]
    decide
  have hinlines := Filter.inlines_searches (.broken "lost")
  obtain ⟨hrows, hone⟩ :=
    map_holds_foldWith_of_inlines .friends (.searches (.search (.broken "lost")))
  refine ⟨hrecords, hinlines, (hrows hrecords .and _ hinlines _ _).trans ?_, ?_⟩
  · rw [foldWith_add_fresh]
    rfl
  · exact hone _ (List.mem_cons_of_mem _ List.mem_cons_self) (Option.some_ne_none _) _ rfl

end Criteria
