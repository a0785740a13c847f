import Criteria.Proofs.Compilation.Reason
import Criteria.Proofs.Filter.Pruning

/-!
# The limit of nesting

Groups are followed down to a level that the settings name. A filter is compiled
within a limit as the filter pruned at that level would be compiled without one
(`Compiler.reached_compile_prune`, `Compiler.compile_withLimit`): the groups at the cut are
recorded, and what they hold is of no account. The levels are counted from the
root, in a machine word that never passes the limit (`Compiler.descend`).
-/

namespace Criteria

namespace Contribution

/-- The contribution but for the records of groups that are too deep. -/
def reached (t : Contribution) : Contribution :=
  ⟨t.predicates, t.skips.filter fun s => !s.reason.isTooDeep⟩

theorem reached_append (t u : Contribution) : (t ++ u).reached = t.reached ++ u.reached := by
  change (⟨_, _⟩ : Contribution) = ⟨_, _⟩
  rw [predicates_append, skips_append, List.filter_append]
  rfl

theorem reached_join (ts : List Contribution) : (join ts).reached = join (ts.map reached) := by
  induction ts with
  | nil => rfl
  | cons t ts ih => rw [join_cons, reached_append, ih, List.map_cons, join_cons]

theorem reached_folded (operator : Operator) (field : String) (t : Contribution) :
    (t.folded operator field).reached = t.reached.folded operator field := by
  rw [folded, reached, List.filter_map]
  rfl

/-- Members that contribute nothing may be left out. -/
theorem join_map_filter {α : Type} {p : α → Bool} {F G : α → Contribution} {xs : List α}
    (h : ∀ x ∈ xs, F x = if p x then G x else .empty) :
    join (xs.map F) = join ((xs.filter p).map G) := by
  induction xs with
  | nil => rfl
  | cons x xs ih =>
      have hx := h x List.mem_cons_self
      have hxs := ih fun y hy => h y (List.mem_cons_of_mem x hy)
      rw [List.map_cons, join_cons, hx, hxs, List.filter_cons]
      split
      · rw [List.map_cons, join_cons]
      · exact empty_append _

end Contribution

namespace Compiler

variable {ι : Type} (T : Compiler ι)

/-- The same compilation within another limit. -/
def withLimit (limit : Nat) : Compiler ι :=
  { T with settings := { T.settings with maxGroupDepth := limit } }

theorem isTooDeep_of_constraint {m : FieldMetadata} {input : FieldInput} {reason : SkipReason}
    (hset : isUnset m input = false)
    (hgroup : ∀ operator g, m.role = .group operator → input ≠ .group (some g))
    (h : T.constraint m input = .error reason) : reason.isTooDeep = false := by
  cases halone : m.leavesAlone input with
  | true =>
      rw [T.constraint_of_leavesAlone hset halone] at h
      cases h
  | false =>
      have hsettles := T.settles_constraint 0 halone hgroup
      cases hfailure : T.inputFailure? 0 m input with
      | none =>
          rw [hfailure, Settles, h] at hsettles
          obtain ⟨p, hp⟩ := hsettles
          cases hp
      | some cause =>
          rw [hfailure, Settles, h] at hsettles
          cases hsettles
          exact T.isTooDeep_of_inputFailure? hgroup hfailure

theorem reached_skipped {reason : SkipReason} (field : String) (h : reason.isTooDeep = false) :
    (T.skipped field reason).reached = T.skipped field reason := by
  unfold skipped
  split
  · rw [Contribution.reached, List.filter_cons_of_pos (by simp [h]), List.filter_nil]
  · rfl

theorem reached_skipped_groupTooDeep (field : String) (limit : Nat) :
    (T.skipped field (.groupTooDeep limit)).reached = .empty := by
  unfold skipped
  split <;> rfl

/-- A field that holds no group is reached. -/
theorem reached_compileField (follow : Filter → Option Contribution) {f : Filter}
    {d : FieldDescriptor} (h : f.nested? d = none) :
    (T.compileField follow f d).reached = T.compileField follow f d := by
  cases hread : f.read d.name with
  | error cause =>
      rw [compileField, hread]
      exact T.reached_skipped d.name rfl
  | ok input =>
      rw [T.compileField_of_read follow hread h]
      cases hset : isUnset d.metadata input with
      | true => rfl
      | false =>
          cases hconstraint : T.constraint d.metadata input with
          | ok p => rfl
          | error reason =>
              have hgroup := Filter.ne_group_of_nested?_eq_none hread h
              exact T.reached_skipped d.name (T.isTooDeep_of_constraint hset hgroup hconstraint)

theorem compileField_withLimit (limit limit' : Nat) (follow follow' : Filter → Option Contribution)
    {f : Filter} {d : FieldDescriptor} (h : f.nested? d = none) :
    (T.withLimit limit).compileField follow f d =
      (T.withLimit limit').compileField follow' f d := by
  cases hread : f.read d.name with
  | error cause =>
      rw [compileField, compileField, hread]
      rfl
  | ok input =>
      rw [compileField_of_read _ follow hread h, compileField_of_read _ follow' hread h]
      rfl

theorem compileFields_withLimit (limit limit' : Nat) {follow follow' : Filter → Option Contribution}
    {f : Filter}
    (h : ∀ d ∈ f.fields, ∀ operator g, f.nested? d = some (operator, g) →
      ∃ t, follow g = some t ∧ follow' g = some t) :
    (T.withLimit limit).compileFields follow f = (T.withLimit limit').compileFields follow' f := by
  rw [compileFields, compileFields]
  congr 1
  refine List.map_congr_left fun d hd => ?_
  cases hnested : f.nested? d with
  | none => exact T.compileField_withLimit limit limit' follow follow' hnested
  | some nested =>
      obtain ⟨operator, g⟩ := nested
      obtain ⟨t, ht, ht'⟩ := h d hd operator g hnested
      rw [compileField_of_nested? _ follow hnested, compileField_of_nested? _ follow' hnested, ht,
        ht']

/-- Where as many levels may be followed as a filter has, the limit makes no
difference. -/
theorem compile_withLimit (limit limit' : Nat) {n m : Nat} {f : Filter} (hn : f.depth ≤ n)
    (hm : f.depth ≤ m) :
    (T.withLimit limit).compile n f = (T.withLimit limit').compile m f := by
  induction n generalizing f m with
  | zero =>
      rw [compile_eq_compileFields, compile_eq_compileFields]
      refine T.compileFields_withLimit limit limit' fun d hd operator g hnested => ?_
      exact absurd (Filter.depth_le_iff.mp hn d hd operator g hnested) (Nat.not_lt_zero _)
  | succ n ih =>
      -- A group is less deep than its filter, so both sides have a level left for it.
      rw [compile_eq_compileFields, compile_eq_compileFields]
      refine T.compileFields_withLimit limit limit' fun d hd operator g hnested => ?_
      have hlt := Filter.depth_le_iff.mp hn d hd operator g hnested
      have hlt' := Filter.depth_le_iff.mp hm d hd operator g hnested
      obtain ⟨m, rfl⟩ := Nat.exists_eq_add_one_of_ne_zero (Nat.ne_zero_of_lt hlt')
      refine ⟨(T.withLimit limit).compile n g, rfl, ?_⟩
      rw [ih (Nat.le_of_lt_succ hlt) (Nat.le_of_lt_succ hlt')]
      rfl

theorem compileInput_mapNested (follow : Filter → Option Contribution) (φ : Filter → Filter)
    (m : FieldMetadata) (input : FieldInput) :
    T.compileInput follow m (input.mapNested φ) = T.compileInput (follow ∘ φ) m input := by
  -- Apart from following it, compilation does not look into a filter.
  cases input with
  | group content =>
      cases content with
      | none =>
          simp only [compileInput, FieldInput.mapNested]
          cases m.role <;> rfl
      | some g =>
          simp only [compileInput, constraint]
          cases m.role <;> rfl
  | _ =>
      simp only [compileInput, FieldInput.mapNested]
      cases m.role <;> rfl

/-- What a filter holds may be changed before the filter is compiled, or on following
the groups. -/
theorem compileFields_mapNested (follow : Filter → Option Contribution) (φ : Filter → Filter)
    (f : Filter) :
    T.compileFields follow (f.mapNested φ) = T.compileFields (follow ∘ φ) f := by
  rw [compileFields, compileFields, Filter.fields_mapNested]
  congr 1
  refine List.map_congr_left fun d _ => ?_
  rw [compileField, compileField, Filter.read_mapNested]
  cases f.read d.name with
  | error cause => rfl
  | ok input => exact T.compileInput_mapNested follow φ d.metadata input

/-- The groups of the level that is not followed any more may hold anything. -/
theorem compile_replant (φ : Filter → Filter) (levels : Nat) (f : Filter) :
    T.compile levels (f.replant φ levels) = T.compile levels f := by
  induction levels generalizing f with
  | zero => exact T.compileFields_mapNested _ φ f
  | succ levels ih =>
      rw [compile_eq_compileFields, Filter.replant, compileFields_mapNested,
        compile_eq_compileFields]
      congr 1
      funext g
      exact congrArg some (ih g)

/-- Within a limit a filter is compiled like what is left of it on pruning. -/
theorem reached_compile_prune (level : Nat) (f : Filter) :
    (T.compile level f).reached = T.compile level (f.prune level) := by
  induction level generalizing f with
  | zero =>
      rw [compile_eq_compileFields, compile_eq_compileFields, compileFields, compileFields,
        Contribution.reached_join, List.map_map]
      -- The fields that the cut takes away contribute a record that is not counted.
      refine Contribution.join_map_filter fun d _ => ?_
      rw [T.compileField_congr (f := f) (g := f.prune 0) _ rfl]
      change (T.compileField _ f d).reached = _
      cases hnested : f.nested? d with
      | none => exact T.reached_compileField _ hnested
      | some nested =>
          obtain ⟨operator, g⟩ := nested
          rw [T.compileField_of_nested? _ hnested]
          exact T.reached_skipped_groupTooDeep d.name _
  | succ level ih =>
      rw [compile_eq_compileFields, compile_eq_compileFields, Filter.prune,
        compileFields_mapNested, compileFields, compileFields, Contribution.reached_join,
        List.map_map]
      congr 1
      refine List.map_congr_left fun d _ => ?_
      change (T.compileField _ f d).reached = _
      cases hnested : f.nested? d with
      | none =>
          rw [T.reached_compileField _ hnested]
          exact T.compileField_of_nested?_eq_none _ _ hnested
      | some nested =>
          obtain ⟨operator, g⟩ := nested
          rw [T.compileField_of_nested? _ hnested, T.compileField_of_nested? _ hnested]
          change ((T.compile level g).folded operator d.name).reached =
            (T.compile level (g.prune level)).folded operator d.name
          rw [Contribution.reached_folded, ih]

theorem isTooDeep_of_failure? {v : Visit} {reason : SkipReason}
    (hnested : v.filter.nested? v.field = none) (h : reason ∈ T.failure? v) :
    reason.isTooDeep = false := by
  unfold failure? at h
  split at h
  · cases h
    rfl
  · rename_i input hread
    split at h
    · cases h
    · exact T.isTooDeep_of_inputFailure? (Filter.ne_group_of_nested?_eq_none hread hnested) h

theorem filter_record? (v : Visit) :
    (T.record? v).filter (·.reason.isTooDeep) =
      if v.isTooDeep then some ⟨v.name, .groupTooDeep T.settings.maxGroupDepth⟩ else none := by
  cases hnested : v.filter.nested? v.field with
  | none =>
      rw [Visit.isTooDeep, hnested, Option.isSome_none, Bool.and_false, record?]
      cases hreason : T.failure? v with
      | none => rfl
      | some reason =>
          have hreached := T.isTooDeep_of_failure? hnested hreason
          exact Option.filter_some_neg hreached
  | some nested =>
      obtain ⟨-, hfailure⟩ := T.failure?_of_nested? hnested
      rw [Visit.isTooDeep, hnested, Option.isSome_some, Bool.and_true, record?, hfailure]
      by_cases hlevels : v.levels = 0
      · rw [hlevels]
        rfl
      · rw [if_neg hlevels, beq_false_of_ne hlevels]
        rfl

variable {T} in
/-- The groups at which compilation turns back are recorded, each once and in order. -/
theorem filter_skips_compile (hcollect : T.settings.collectDiagnostics = true) (levels : Nat)
    (f : Filter) :
    (T.compile levels f).skips.filter (·.reason.isTooDeep) =
      ((f.visits levels).filter (·.isTooDeep)).map fun v =>
        ⟨v.name, .groupTooDeep T.settings.maxGroupDepth⟩ := by
  rw [skips_compile hcollect, List.filter_filterMap, ← List.filterMap_eq_map, List.filterMap_filter]
  congr 1
  funext v
  exact T.filter_record? v

/-- A word below another one can be counted on. -/
theorem toNat_add_one_of_lt {limit depth : UInt64} (h : ¬ limit ≤ depth) :
    (depth + 1).toNat = depth.toNat + 1 ∧ depth.toNat < limit.toNat := by
  have hlt : depth.toNat < limit.toNat := Nat.lt_of_not_le (mt UInt64.le_iff_toNat_le.mpr h)
  refine ⟨?_, hlt⟩
  have hbound := limit.toNat_lt
  rw [UInt64.toNat_add]
  exact Nat.mod_eq_of_lt (Nat.lt_of_le_of_lt hlt hbound)

/-- While a level is left the counter is below the limit, and the next one counts on. -/
theorem not_le_and_count {limit depth : UInt64} {levels : Nat}
    (h : depth.toNat + (levels + 1) = limit.toNat) :
    ¬ limit ≤ depth ∧ (depth + 1).toNat + levels = limit.toNat := by
  have hle : ¬ limit ≤ depth := by
    rw [UInt64.le_iff_toNat_le]
    omega
  obtain ⟨hnext, -⟩ := toNat_add_one_of_lt hle
  exact ⟨hle, by omega⟩

/-- What a filter is compiled to, and the groups that were entered on the way: the
names around each filter, with the word in which they were counted. -/
structure Descent where
  contents : Contribution
  entered : List (List String × UInt64)

/-- Compiles a filter with `depth` groups around it. Each group is compiled with a
counter of its own, which is one more. -/
def descend (limit depth : UInt64) (f : Filter) : Descent :=
  let child (g : Filter) : Option Descent :=
    if h : limit ≤ depth then none else some (descend limit (depth + 1) g)
  { contents := T.compileFields (fun g => (child g).map (·.contents)) f
    entered := ([], depth) :: f.fields.flatMap fun d =>
      match (f.nested? d).bind fun nested => child nested.2 with
      | some t => t.entered.map fun e => (d.name :: e.1, e.2)
      | none => [] }
termination_by limit.toNat - depth.toNat
decreasing_by
  all_goals
    obtain ⟨hnext, hlt⟩ := toNat_add_one_of_lt h
    omega

theorem contents_descend {limit depth : UInt64} {levels : Nat}
    (h : depth.toNat + levels = limit.toNat) (f : Filter) :
    (T.descend limit depth f).contents = T.compile levels f := by
  induction levels generalizing depth f with
  | zero =>
      have hle : limit ≤ depth := UInt64.le_iff_toNat_le.mpr (Nat.le_of_eq h.symm)
      rw [descend, compile_eq_compileFields]
      simp only [dif_pos hle]
      rfl
  | succ levels ih =>
      obtain ⟨hle, hlevels⟩ := not_le_and_count h
      rw [descend, compile_eq_compileFields]
      simp only [dif_neg hle, Option.map_some, ih hlevels]
      rfl

theorem entered_descend_of_le {limit depth : UInt64} (hle : limit ≤ depth) (f : Filter) :
    (T.descend limit depth f).entered = [([], depth)] := by
  rw [descend]
  simp only [dif_pos hle, Option.bind_fun_none]
  exact congrArg (([], depth) :: ·) (List.flatMap_eq_nil_iff.mpr fun _ _ => rfl)

theorem entered_descend_of_not_le {limit depth : UInt64} (hle : ¬ limit ≤ depth) (f : Filter) :
    (T.descend limit depth f).entered =
      ([], depth) :: f.fields.flatMap fun d =>
        match f.nested? d with
        | some (_, g) => (T.descend limit (depth + 1) g).entered.map fun e => (d.name :: e.1, e.2)
        | none => [] := by
  rw [descend]
  simp only [dif_neg hle]
  congr 2
  funext d
  cases f.nested? d <;> rfl

/-- A filter is entered, and each of its groups that is followed. -/
theorem map_entered_descend {limit depth : UInt64} {levels : Nat}
    (h : depth.toNat + levels = limit.toNat) (f : Filter) :
    (T.descend limit depth f).entered.map Prod.fst =
      [] :: ((f.visits levels).filter (·.follows?.isSome)).map Visit.path := by
  induction levels generalizing depth f with
  | zero =>
      have hnone : (f.visits 0).filter (·.follows?.isSome) = [] := by
        rw [Filter.visits, List.filter_map]
        exact List.map_eq_nil_iff.mpr (List.filter_eq_nil_iff.mpr fun d _ => Bool.false_ne_true)
      rw [T.entered_descend_of_le (UInt64.le_iff_toNat_le.mpr (Nat.le_of_eq h.symm)), hnone]
      rfl
  | succ levels ih =>
      obtain ⟨hle, hlevels⟩ := not_le_and_count h
      rw [T.entered_descend_of_not_le hle, Filter.visits_eq_flatMap, List.filter_flatMap,
        List.map_flatMap, List.map_cons, List.map_flatMap]
      congr 2
      funext d
      have hpath (v : Visit) : (v.under d.name).path = d.name :: v.path := rfl
      have hbelow := (Visit.mk [] f d (levels + 1)).map_filter_below
        (p := (·.follows?.isSome)) (q := (·.follows?.isSome)) hpath (fun _ => rfl)
      have hfollows : (Visit.mk [] f d (levels + 1)).follows? = f.nested? d := rfl
      rw [hfollows] at hbelow
      cases hnested : f.nested? d with
      | none =>
          rw [hnested] at hbelow hfollows
          rw [List.filter_cons_of_neg (by rw [hfollows]; exact Bool.false_ne_true), hbelow]
          rfl
      | some nested =>
          obtain ⟨operator, g⟩ := nested
          rw [hnested] at hbelow hfollows
          rw [List.filter_cons_of_pos (by rw [hfollows]; rfl), List.map_cons, hbelow]
          have hentered := congrArg (List.map (d.name :: ·)) (ih hlevels g)
          rw [List.map_map] at hentered
          rw [List.map_map]
          exact hentered

/-- The counter of a group is the number of groups around it, none of which is
beyond the limit. -/
theorem toNat_of_mem_entered_descend {limit depth : UInt64} {levels : Nat}
    (h : depth.toNat + levels = limit.toNat) {f : Filter} {e : List String × UInt64}
    (he : e ∈ (T.descend limit depth f).entered) :
    e.2.toNat = depth.toNat + e.1.length ∧ e.1.length ≤ levels := by
  induction levels generalizing depth f e with
  | zero =>
      rw [T.entered_descend_of_le (UInt64.le_iff_toNat_le.mpr (Nat.le_of_eq h.symm))] at he
      obtain rfl := List.mem_singleton.mp he
      exact ⟨rfl, Nat.le_refl 0⟩
  | succ levels ih =>
      obtain ⟨hle, hlevels⟩ := not_le_and_count h
      rw [T.entered_descend_of_not_le hle] at he
      rcases List.mem_cons.mp he with rfl | he
      · exact ⟨rfl, Nat.zero_le _⟩
      · obtain ⟨d, _, he⟩ := List.mem_flatMap.mp he
        split at he
        · obtain ⟨inner, hinner, rfl⟩ := List.mem_map.mp he
          obtain ⟨hcount, hlength⟩ := ih hlevels hinner
          obtain ⟨hnext, -⟩ := toNat_add_one_of_lt hle
          simp only [List.length_cons]
          omega
        · cases he

end Compiler

/-- What a fresh session holds after one filter within a limit of nesting. -/
def Session.within {ι : Type} (T : Compiler ι) (limit : Nat) (f : Filter) : Contribution :=
  ((fresh (T.withLimit limit)).add f).contents

theorem Session.within_eq_compile {ι : Type} (T : Compiler ι) (limit : Nat) (f : Filter) :
    within T limit f = (T.withLimit limit).compile limit f :=
  contents_add_fresh (T.withLimit limit) f

/-- A limit of nesting prunes. What is made of a filter is what would be made, within
any limit that leaves it whole, of the filter without the groups of the level that
the limit names. Those groups are recorded, they alone, and nothing depends on what
they hold. Counted in machine words, the groups around a filter that is entered are
never more than the limit. A limit that no group passes makes no difference. -/
theorem Session.within_eq_within_prune {ι : Type} (T : Compiler ι) (limit : UInt64) (f : Filter) :
    (f.prune limit.toNat).depth ≤ limit.toNat ∧
      (∀ m, (f.prune limit.toNat).depth ≤ m →
        (within T limit.toNat f).reached = within T m (f.prune limit.toNat) ∧
        ((f.prune limit.toNat).visits m).map Visit.place =
          ((f.visits limit.toNat).filter fun v => !v.isTooDeep).map Visit.place) ∧
      (∀ v ∈ f.visits limit.toNat, v.isTooDeep = true ↔
        v.groups.length = limit.toNat ∧ v.filter.nested? v.field ≠ none) ∧
      (T.settings.collectDiagnostics = true →
        (within T limit.toNat f).skips.filter (·.reason.isTooDeep) =
          ((f.visits limit.toNat).filter (·.isTooDeep)).map fun v =>
            ⟨v.name, .groupTooDeep limit.toNat⟩) ∧
      (∀ φ, within T limit.toNat (f.replant φ limit.toNat) = within T limit.toNat f) ∧
      ((T.withLimit limit.toNat).descend limit 0 f).contents = within T limit.toNat f ∧
      ((T.withLimit limit.toNat).descend limit 0 f).entered.map Prod.fst =
        [] :: ((f.visits limit.toNat).filter (·.follows?.isSome)).map Visit.path ∧
      (∀ e ∈ ((T.withLimit limit.toNat).descend limit 0 f).entered,
        e.2 ≤ limit ∧ e.2.toNat = e.1.length) ∧
      (f.depth ≤ limit.toNat → ∀ m, f.depth ≤ m → within T limit.toNat f = within T m f) := by
  have hstart : (0 : UInt64).toNat + limit.toNat = limit.toNat := Nat.zero_add _
  simp only [within_eq_compile]
  refine ⟨Filter.depth_prune_le _ f, fun m hm => ⟨?_, Filter.map_place_visits_prune hm⟩,
    fun v hv => ?_,
    fun hcollect => Compiler.filter_skips_compile (T := T.withLimit limit.toNat) hcollect _ f,
    fun φ => Compiler.compile_replant _ φ _ f, Compiler.contents_descend _ hstart f,
    Compiler.map_entered_descend _ hstart f, fun e he => ?_,
    fun hlimit m hm => T.compile_withLimit _ m hlimit hm⟩
  · have hpruned := (T.withLimit limit.toNat).reached_compile_prune limit.toNat f
    exact hpruned.trans (T.compile_withLimit _ m (Filter.depth_prune_le _ f) hm)
  · have hlevels := Filter.length_groups_add_levels hv
    rw [Visit.isTooDeep, Bool.and_eq_true, beq_iff_eq, Option.isSome_iff_ne_none]
    refine and_congr_left fun _ => ?_
    omega
  · obtain ⟨hcount, hlength⟩ := Compiler.toNat_of_mem_entered_descend _ hstart he
    have hword : e.2.toNat = e.1.length := hcount.trans (Nat.zero_add _)
    exact ⟨UInt64.le_iff_toNat_le.mpr (hword ▸ hlength), hword⟩

theorem Session.within_search :
    ((Filter.search (.value (.text "Kid"))).prune 0).depth ≤ 7 ∧
      (within .friends 0 (.search (.value (.text "Kid")))).reached =
        within .friends 7 ((Filter.search (.value (.text "Kid"))).prune 0) ∧
      (within .friends 0 (.search (.value (.text "Kid")))).skips.filter (·.reason.isTooDeep) =
        [⟨"either", .groupTooDeep 0⟩] ∧
      within .friends 1 (.search (.value (.text "Kid"))) =
        within .friends 7 (.search (.value (.text "Kid"))) := by
  have hpruned : ((Filter.search (.value (.text "Kid"))).prune 0).depth ≤ 7 := by decide
  obtain ⟨-, hreached, -, hrecords, -⟩ :=
    within_eq_within_prune .friends 0 (.search (.value (.text "Kid")))
  obtain ⟨-, -, -, -, -, -, -, -, hwhole⟩ :=
    within_eq_within_prune .friends 1 (.search (.value (.text "Kid")))
  exact ⟨hpruned, (hreached 7 hpruned).1, hrecords rfl, hwhole (by decide) 7 (by decide)⟩

end Criteria
