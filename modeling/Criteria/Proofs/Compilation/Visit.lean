import Criteria.Proofs.Compilation.Contribution

/-!
# Fields that compilation visits

Compilation goes through the fields of a filter in order and enters a group where
it meets one, as long as there is a level left. `Filter.visits` lists the fields
in the order in which they are met, the fields of a followed group right behind
the group itself. Each one stands there with the filter that declares it and the
number of levels that are left; `Compiler.visit` is what it contributes, and for a
followed group this is the fold of what its own fields contribute
(`visit_of_follows`).
-/

namespace Criteria

/-- The filter that a declared field holds as a group, with the operator of the
group. -/
def Filter.nested? (f : Filter) (d : FieldDescriptor) : Option (Operator × Filter) :=
  match d.tags.role, f.read d.name with
  | .group operator, .ok (.group (some g)) => some (operator, g)
  | _, _ => none

theorem Filter.nested?_eq_some_iff {f : Filter} {d : FieldDescriptor} {operator : Operator}
    {g : Filter} :
    f.nested? d = some (operator, g) ↔
      d.tags.role = .group operator ∧ f.read d.name = .ok (.group (some g)) := by
  unfold nested?
  split
  · rename_i hrole hread
    rw [hrole, hread]
    simp
  · rename_i hother
    constructor
    · exact nofun
    · rintro ⟨hrole, hread⟩
      exact absurd hread (hother operator g hrole)

theorem Filter.ne_group_of_nested?_eq_none {f : Filter} {d : FieldDescriptor}
    {input : FieldInput} (hread : f.read d.name = .ok input) (h : f.nested? d = none)
    (operator : Operator) (g : Filter) (hrole : d.tags.role = .group operator) :
    input ≠ .group (some g) := by
  rintro rfl
  rw [nested?_eq_some_iff.mpr ⟨hrole, hread⟩] at h
  cases h

/-- A declared field where compilation meets it. -/
structure Visit where
  /-- Names of the followed groups around the field, from the outside. -/
  groups : List String
  filter : Filter
  field : FieldDescriptor
  /-- Number of levels of groups that may still be followed. -/
  levels : Nat

namespace Visit

def path (v : Visit) : List String := v.groups ++ [v.field.name]

/-- The name under which the field is recorded. -/
def name (v : Visit) : String := dotJoin v.path

/-- The same field, seen from around the group that it stands in. -/
def under (group : String) (v : Visit) : Visit := { v with groups := group :: v.groups }

/-- The group that is followed at the field. -/
def follows? (v : Visit) : Option (Operator × Filter) :=
  match v.levels with
  | 0 => none
  | _ + 1 => v.filter.nested? v.field

/-- The fields of the group that is followed at the field. -/
def children (v : Visit) : List Visit :=
  match v.follows? with
  | some (_, g) => g.fields.map fun e => ⟨v.path, g, e, v.levels - 1⟩
  | none => []

theorem follows?_of_nested?_eq_none {v : Visit} (h : v.filter.nested? v.field = none) :
    v.follows? = none := by
  unfold follows?
  split
  · rfl
  · exact h

@[simp] theorem path_under (group : String) (v : Visit) :
    (v.under group).path = group :: v.path := rfl

theorem children_under (group : String) (v : Visit) :
    (v.under group).children = v.children.map (·.under group) := by
  have hfollows : (v.under group).follows? = v.follows? := rfl
  rw [children, children, hfollows]
  cases v.follows? with
  | none => rfl
  | some nested =>
      simp only [List.map_map]
      rfl

theorem path_ne_nil (v : Visit) : v.path ≠ [] := by
  simp [path]

theorem name_under (group : String) (v : Visit) :
    (v.under group).name = group ++ "." ++ v.name := by
  rw [name, path_under, name]
  cases h : v.path with
  | nil => exact absurd h v.path_ne_nil
  | cons s rest => rfl

end Visit

/-- The fields that are met on following groups for the given number of levels. -/
def Filter.visits : Nat → Filter → List Visit
  | 0, f => f.fields.map fun d => ⟨[], f, d, 0⟩
  | levels + 1, f =>
      f.fields.flatMap fun d =>
        ⟨[], f, d, levels + 1⟩ ::
          match f.nested? d with
          | some (_, g) => (visits levels g).map (·.under d.name)
          | none => []

/-- The fields that are met behind a field, because it is a followed group. -/
def Visit.below (v : Visit) : List Visit :=
  match v.follows? with
  | some (_, g) => (g.visits (v.levels - 1)).map (·.under v.field.name)
  | none => []

theorem Filter.visits_eq_flatMap (levels : Nat) (f : Filter) :
    f.visits levels =
      f.fields.flatMap fun d => ⟨[], f, d, levels⟩ :: (Visit.mk [] f d levels).below := by
  cases levels with
  | zero => exact List.map_eq_flatMap
  | succ levels => rfl

/-- What is met behind a field is met in its group, and stands one step further
away. -/
theorem Visit.map_filter_below {β : Type} (v : Visit) {key : Visit → β} {shift : β → β}
    {p q : Visit → Bool} (hkey : ∀ w, key (w.under v.field.name) = shift (key w))
    (hp : ∀ w, p (w.under v.field.name) = q w) :
    (v.below.filter p).map key =
      match v.follows? with
      | some (_, g) => (((g.visits (v.levels - 1)).filter q).map key).map shift
      | none => [] := by
  rw [Visit.below]
  cases v.follows? with
  | none => rfl
  | some nested =>
      have hp' : p ∘ Visit.under v.field.name = q := funext hp
      have hkey' : key ∘ Visit.under v.field.name = shift ∘ key := funext hkey
      simp only [List.filter_map, List.map_map, hp', hkey']

theorem Filter.mem_visits_of_mem_fields (levels : Nat) {f : Filter} {d : FieldDescriptor}
    (hd : d ∈ f.fields) : ⟨[], f, d, levels⟩ ∈ f.visits levels := by
  rw [visits_eq_flatMap]
  exact List.mem_flatMap.mpr ⟨d, hd, List.mem_cons_self⟩

/-- The fields of a followed group are met as well. -/
theorem Filter.mem_visits_of_mem_children {levels : Nat} {f : Filter} {v w : Visit}
    (hv : v ∈ f.visits levels) (hw : w ∈ v.children) : w ∈ f.visits levels := by
  induction levels generalizing f v w with
  | zero =>
      obtain ⟨d, _, rfl⟩ := List.mem_map.mp hv
      cases hw
  | succ levels ih =>
      obtain ⟨d, hd, hv⟩ := List.mem_flatMap.mp hv
      refine List.mem_flatMap.mpr ⟨d, hd, List.mem_cons_of_mem _ ?_⟩
      rcases List.mem_cons.mp hv with rfl | hv
      · have hfollows : (Visit.mk [] f d (levels + 1)).follows? = f.nested? d := rfl
        rw [Visit.children, hfollows] at hw
        cases hnested : f.nested? d with
        | none =>
            rw [hnested] at hw
            cases hw
        | some nested =>
            rw [hnested] at hw
            obtain ⟨e, he, rfl⟩ := List.mem_map.mp hw
            exact List.mem_map_of_mem (mem_visits_of_mem_fields levels he)
      · split at hv
        · obtain ⟨u, hu, rfl⟩ := List.mem_map.mp hv
          rw [Visit.children_under] at hw
          obtain ⟨x, hx, rfl⟩ := List.mem_map.mp hw
          exact List.mem_map_of_mem (ih hu hx)
        · cases hv

/-- Groups are followed where a level is left for them. -/
theorem Filter.length_groups_add_levels {levels : Nat} {f : Filter} {v : Visit}
    (h : v ∈ f.visits levels) : v.groups.length + v.levels = levels := by
  induction levels generalizing f v with
  | zero =>
      obtain ⟨d, _, rfl⟩ := List.mem_map.mp h
      rfl
  | succ levels ih =>
      obtain ⟨d, _, h⟩ := List.mem_flatMap.mp h
      rcases List.mem_cons.mp h with rfl | h
      · exact Nat.zero_add _
      · split at h
        · obtain ⟨w, hw, rfl⟩ := List.mem_map.mp h
          have hlevels := ih hw
          simp only [Visit.under, List.length_cons]
          omega
        · cases h

/-- What passes on from a filter to its groups holds of every filter that is met. -/
theorem Filter.of_mem_visits {P : Filter → Prop}
    (hnested : ∀ f, P f → ∀ d ∈ f.fields, ∀ operator g, f.nested? d = some (operator, g) → P g)
    {levels : Nat} {f : Filter} (hf : P f) {v : Visit} (hv : v ∈ f.visits levels) :
    P v.filter ∧ v.field ∈ v.filter.fields := by
  induction levels generalizing f v with
  | zero =>
      obtain ⟨d, hd, rfl⟩ := List.mem_map.mp hv
      exact ⟨hf, hd⟩
  | succ levels ih =>
      obtain ⟨d, hd, hv⟩ := List.mem_flatMap.mp hv
      rcases List.mem_cons.mp hv with rfl | hv
      · exact ⟨hf, hd⟩
      · split at hv
        · rename_i operator g hgroup
          obtain ⟨w, hw, rfl⟩ := List.mem_map.mp hv
          have hbelow := ih (hnested f hf d hd operator g hgroup) hw
          exact hbelow
        · cases hv

namespace Compiler

variable {ι : Type} (T : Compiler ι)

/-- Compiles a nested filter where a level is left for it. -/
def follow : Nat → Filter → Option Contribution
  | 0, _ => none
  | levels + 1, g => some (T.compile levels g)

theorem compile_eq_compileFields (levels : Nat) (f : Filter) :
    T.compile levels f = T.compileFields (T.follow levels) f := by
  cases levels <;> rfl

/-- What a field contributes where compilation meets it. -/
def visit (v : Visit) : Contribution := T.compileField (T.follow v.levels) v.filter v.field

theorem compile_eq_join_visit (levels : Nat) (f : Filter) :
    T.compile levels f = .join (f.fields.map fun d => T.visit ⟨[], f, d, levels⟩) := by
  rw [compile_eq_compileFields]
  rfl

theorem compileField_congr (follow : Filter → Option Contribution) {f g : Filter}
    {d : FieldDescriptor} (h : g.read d.name = f.read d.name) :
    T.compileField follow g d = T.compileField follow f d := by
  rw [compileField, h]
  rfl

/-- A field that holds a group contributes what becomes of the nested filter. -/
theorem compileField_of_nested? (follow : Filter → Option Contribution) {f : Filter}
    {d : FieldDescriptor} {operator : Operator} {g : Filter}
    (h : f.nested? d = some (operator, g)) :
    T.compileField follow f d =
      match follow g with
      | some t => t.folded operator d.name
      | none => T.skipped d.name (.groupTooDeep T.settings.maxGroupDepth) := by
  obtain ⟨hrole, hread⟩ := Filter.nested?_eq_some_iff.mp h
  have hmetadata : d.metadata.role = .group operator := hrole
  rw [compileField, hread]
  simp only [compileInput, hmetadata]
  rfl

/-- A field that holds no group contributes what becomes of its own input. -/
theorem compileField_of_read (follow : Filter → Option Contribution) {f : Filter}
    {d : FieldDescriptor} {input : FieldInput} (hread : f.read d.name = .ok input)
    (h : f.nested? d = none) :
    T.compileField follow f d =
      if isUnset d.metadata input then .empty
      else
        match T.constraint d.metadata input with
        | .ok p => .ofOption p
        | .error reason => T.skipped d.name reason := by
  rw [compileField, hread]
  simp only [compileInput]
  split
  · rfl
  · split
    · rename_i hrole _
      exact absurd rfl (Filter.ne_group_of_nested?_eq_none hread h _ _ hrole)
    · rfl

/-- A field that holds no group contributes the same however groups are followed. -/
theorem compileField_of_nested?_eq_none (follow follow' : Filter → Option Contribution)
    {f : Filter} {d : FieldDescriptor} (h : f.nested? d = none) :
    T.compileField follow f d = T.compileField follow' f d := by
  cases hread : f.read d.name with
  | error cause => rw [compileField, compileField, hread]
  | ok input => rw [T.compileField_of_read follow hread h, T.compileField_of_read follow' hread h]

/-- A followed group contributes the fold of what its fields contribute. -/
theorem visit_of_follows {v : Visit} {operator : Operator} {g : Filter}
    (h : v.follows? = some (operator, g)) :
    T.visit v = (Contribution.join (v.children.map T.visit)).folded operator v.field.name := by
  obtain ⟨groups, f, d, levels⟩ := v
  cases levels with
  | zero => cases h
  | succ levels =>
      have hchildren : (Visit.mk groups f d (levels + 1)).children.map T.visit =
          g.fields.map fun e => T.visit ⟨[], g, e, levels⟩ := by
        rw [Visit.children, h, List.map_map]
        rfl
      rw [hchildren, ← compile_eq_join_visit]
      exact T.compileField_of_nested? _ h

end Compiler

/-- Persons of a name, a nickname and an age. The name alone is a constraint: no
nickname is stored, and the age is missing. -/
def Filter.nicknamed (nick : Slot) : Filter :=
  .mk "Nicknamed" [⟨"nick", {}⟩, ⟨"name", {}⟩, ⟨"age", {}⟩]
    [("nick", nick), ("name", .value (.text "Ann")), ("age", .value .null)]

/-- A group of such fields, and a field without a slot. -/
def Filter.search (nick : Slot) : Filter :=
  .mk "Search" [⟨"either", { group := some .or }⟩, ⟨"lost", {}⟩]
    [("either", .group (some (.nicknamed nick)))]

end Criteria
