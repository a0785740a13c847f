import Criteria.Proofs.Compilation.Visit
import Mathlib.Data.List.Basic

/-!
# Pruning filters

A filter is a tree through the groups that its fields hold. `Filter.depth` is the
number of levels of groups in it, and `Filter.prune` deletes the group fields of one
level, whatever they hold. What is left is no deeper than that level
(`depth_prune_le`) and has all other fields in place (`map_place_visits_prune`).
-/

namespace Criteria

/-- The slot with a function applied to the filter that it holds. -/
def Slot.mapNested (φ : Filter → Filter) : Slot → Slot
  | group (some g) => group (some (φ g))
  | slot => slot

/-- The input with a function applied to the filter that it holds. -/
def FieldInput.mapNested (φ : Filter → Filter) : FieldInput → FieldInput
  | group (some g) => group (some (φ g))
  | input => input

mutual

/-- Number of levels of groups that stand in each other. -/
def Filter.depth : Filter → Nat
  | .mk _ fields slots =>
      (fields.map fun d =>
        match d.tags.role with
        | .group _ => ((slotDepths slots).lookup d.name).getD 0
        | _ => 0).foldr max 0

def slotDepths : List (String × Slot) → List (String × Nat)
  | [] => []
  | (name, slot) :: slots => (name, slot.depth) :: slotDepths slots

def Slot.depth : Slot → Nat
  | .group (some g) => g.depth + 1
  | _ => 0

end

theorem lookup_slotDepths (name : String) (slots : List (String × Slot)) :
    (slotDepths slots).lookup name = (slots.lookup name).map Slot.depth := by
  induction slots with
  | nil => rfl
  | cons s slots ih =>
      obtain ⟨field, slot⟩ := s
      rw [slotDepths, List.lookup_cons, List.lookup_cons, ih]
      cases name == field <;> rfl

namespace Filter

/-- The filter with a function applied to every filter that it holds. -/
def mapNested (φ : Filter → Filter) (f : Filter) : Filter :=
  .mk f.name f.fields (f.slots.map fun s => (s.1, s.2.mapNested φ))

/-- The filter without the group fields of a level, the outermost being level zero. -/
def prune : Nat → Filter → Filter
  | 0, f => .mk f.name (f.fields.filter fun d => (f.nested? d).isNone) f.slots
  | level + 1, f => f.mapNested (prune level)

/-- The filter in which the groups of a level hold something else. -/
def replant (φ : Filter → Filter) : Nat → Filter → Filter
  | 0, f => f.mapNested φ
  | level + 1, f => f.mapNested (replant φ level)

@[simp] theorem fields_mapNested (φ : Filter → Filter) (f : Filter) :
    (f.mapNested φ).fields = f.fields := rfl

theorem read_mapNested (φ : Filter → Filter) (f : Filter) (name : String) :
    (f.mapNested φ).read name = (f.read name).map (FieldInput.mapNested φ) := by
  have hlookup : (f.mapNested φ).slots.lookup name =
      (f.slots.lookup name).map (Slot.mapNested φ) := by
    change (f.slots.map fun s => (s.1, s.2.mapNested φ)).lookup name = _
    induction f.slots with
    | nil => rfl
    | cons s slots ih =>
        rw [List.map_cons, List.lookup_cons, List.lookup_cons, ih]
        cases name == s.1 <;> rfl
  rw [read, read, hlookup]
  cases f.slots.lookup name with
  | none => rfl
  | some slot =>
      cases slot with
      | group content => cases content <;> rfl
      | _ => rfl

theorem nested?_mapNested (φ : Filter → Filter) (f : Filter) (d : FieldDescriptor) :
    (f.mapNested φ).nested? d = (f.nested? d).map fun nested => (nested.1, φ nested.2) := by
  rw [nested?, nested?, read_mapNested]
  cases f.read d.name with
  | error cause => cases d.tags.role <;> rfl
  | ok input =>
      cases input with
      | group content => cases content <;> cases d.tags.role <;> rfl
      | _ => cases d.tags.role <;> rfl

/-- A filter is one level deeper than the deepest of its groups. -/
theorem depth_eq (f : Filter) :
    f.depth =
      (f.fields.map fun d => ((f.nested? d).map fun nested => nested.2.depth + 1).getD 0).foldr
        max 0 := by
  obtain ⟨name, fields, slots⟩ := f
  rw [depth]
  congr 1
  refine List.map_congr_left fun d _ => ?_
  rw [nested?, read, lookup_slotDepths, Filter.slots]
  cases slots.lookup d.name with
  | none => cases d.tags.role <;> rfl
  | some slot =>
      cases slot with
      | group content => cases content <;> cases d.tags.role <;> rfl
      | _ => cases d.tags.role <;> rfl

theorem depth_le_iff {f : Filter} {n : Nat} :
    f.depth ≤ n ↔
      ∀ d ∈ f.fields, ∀ operator g, f.nested? d = some (operator, g) → g.depth < n := by
  have hmax (xs : List Nat) : xs.foldr max 0 ≤ n ↔ ∀ x ∈ xs, x ≤ n := by
    induction xs with
    | nil => simp
    | cons x xs ih => rw [List.foldr_cons, Nat.max_le, ih, List.forall_mem_cons]
  rw [depth_eq, hmax, List.forall_mem_map]
  refine forall_congr' fun d => forall_congr' fun hd => ?_
  cases f.nested? d with
  | none => simp
  | some nested =>
      obtain ⟨operator, g⟩ := nested
      constructor
      · intro h operator' g' hnested
        cases hnested
        exact h
      · intro h
        exact h operator g rfl

theorem nested?_prune_zero (f : Filter) {d : FieldDescriptor} (hd : d ∈ (f.prune 0).fields) :
    (f.prune 0).nested? d = none := by
  have hnone := (List.mem_filter.mp hd).2
  exact Option.isNone_iff_eq_none.mp hnone

/-- Nothing is left below the level at which a filter was pruned. -/
theorem depth_prune_le (level : Nat) (f : Filter) : (f.prune level).depth ≤ level := by
  induction level generalizing f with
  | zero =>
      rw [depth_le_iff]
      intro d hd operator g hnested
      rw [nested?_prune_zero f hd] at hnested
      cases hnested
  | succ level ih =>
      rw [depth_le_iff]
      intro d _ operator g hnested
      rw [prune, nested?_mapNested] at hnested
      obtain ⟨nested, -, hg⟩ := Option.map_eq_some_iff.mp hnested
      obtain ⟨-, rfl⟩ := Prod.mk.inj hg
      exact Nat.lt_succ_of_le (ih nested.2)

end Filter

/-- The field holds a group that no level is left for. -/
def Visit.isTooDeep (v : Visit) : Bool := v.levels == 0 && (v.filter.nested? v.field).isSome

/-- Where a field stands and how it is declared. -/
def Visit.place (v : Visit) : List String × FieldDescriptor := (v.path, v.field)

namespace Filter

theorem isTooDeep_of_levels {v : Visit} (h : v.levels ≠ 0) : v.isTooDeep = false := by
  rw [Visit.isTooDeep, beq_false_of_ne h, Bool.false_and]

/-- What is met behind a field lies further away by the name of the field. -/
theorem map_place_filter_below {p : Visit → Bool} (hp : ∀ group w, p (w.under group) = p w)
    (f : Filter) (d : FieldDescriptor) (levels : Nat) :
    ((Visit.mk [] f d levels).below.filter p).map Visit.place =
      match (Visit.mk [] f d levels).follows? with
      | some (_, g) =>
          (((g.visits (levels - 1)).filter p).map Visit.place).map fun q => (d.name :: q.1, q.2)
      | none => [] :=
  Visit.map_filter_below _ (fun _ => rfl) (hp d.name)

theorem map_place_below (f : Filter) (d : FieldDescriptor) (levels : Nat) :
    (Visit.mk [] f d levels).below.map Visit.place =
      match (Visit.mk [] f d levels).follows? with
      | some (_, g) =>
          ((g.visits (levels - 1)).map Visit.place).map fun q => (d.name :: q.1, q.2)
      | none => [] := by
  have h := map_place_filter_below (p := fun _ => true) (fun _ _ => rfl) f d levels
  simp only [List.filter_true] at h
  exact h

/-- A pruned filter is met in all of its fields, where as many levels are followed
as it has: those are the fields that are met in the whole filter and hold no group
on the level of the cut. -/
theorem map_place_visits_prune {level : Nat} {f : Filter} {levels : Nat}
    (h : (f.prune level).depth ≤ levels) :
    ((f.prune level).visits levels).map Visit.place =
      ((f.visits level).filter fun v => !v.isTooDeep).map Visit.place := by
  induction level generalizing f levels with
  | zero =>
      have hcut : (fun v : Visit => !v.isTooDeep) ∘ (fun d => Visit.mk [] f d 0) =
          fun d => (f.nested? d).isNone := by
        funext d
        simp [Visit.isTooDeep]
      have hplace (d : FieldDescriptor) (hd : d ∈ (f.prune 0).fields) :
          (Visit.mk [] (f.prune 0) d levels :: (Visit.mk [] (f.prune 0) d levels).below).map
            Visit.place = [([d.name], d)] := by
        rw [List.map_cons, map_place_below, Visit.follows?_of_nested?_eq_none]
        · rfl
        · exact nested?_prune_zero f hd
      rw [visits_eq_flatMap, visits, List.filter_map, hcut, List.map_map, List.map_flatMap,
        List.flatMap_congr hplace]
      exact List.map_eq_flatMap.symm
  | succ level ih =>
      rw [visits_eq_flatMap, visits_eq_flatMap, prune, fields_mapNested, List.map_flatMap,
        List.filter_flatMap, List.map_flatMap]
      refine List.flatMap_congr fun d hd => ?_
      rw [List.filter_cons_of_pos (by simp [isTooDeep_of_levels]), List.map_cons, List.map_cons]
      refine congrArg₂ List.cons rfl ?_
      rw [map_place_below, map_place_filter_below (fun _ _ => rfl)]
      cases hnested : f.nested? d with
      | none =>
          have hpruned : (f.mapNested (prune level)).nested? d = none := by
            rw [nested?_mapNested, hnested]
            rfl
          have hfollows := Visit.follows?_of_nested?_eq_none
            (v := ⟨[], f, d, level + 1⟩) hnested
          have hfollows' := Visit.follows?_of_nested?_eq_none
            (v := ⟨[], f.mapNested (prune level), d, levels⟩) hpruned
          rw [hfollows, hfollows']
      | some nested =>
          obtain ⟨operator, g⟩ := nested
          have hpruned :
              (f.mapNested (prune level)).nested? d = some (operator, g.prune level) := by
            rw [nested?_mapNested, hnested]
            rfl
          -- The pruned group is within the remaining levels, so it is followed as well.
          have hdepth := depth_le_iff.mp h d hd operator (g.prune level) hpruned
          obtain ⟨levels, rfl⟩ := Nat.exists_eq_add_one_of_ne_zero (Nat.ne_zero_of_lt hdepth)
          have hfollows : (Visit.mk [] (f.mapNested (prune level)) d (levels + 1)).follows? =
              some (operator, g.prune level) := hpruned
          have hfollows' : (Visit.mk [] f d (level + 1)).follows? = some (operator, g) := hnested
          rw [hfollows, hfollows']
          exact congrArg _ (ih (Nat.le_of_lt_succ hdepth))

end Filter

end Criteria
