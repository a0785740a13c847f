import Criteria.Proofs.Compilation.Verdict
import Criteria.Proofs.Predicate.Polarity

/-!
# Faults of a field

`Filter.fault` is a filter with one field that can no longer be read, in the
filter itself or in one that stands in its groups. Compilation skips the field and
goes on. What this does to the rows that are admitted is decided at one place: at
the innermost filter around the field that still contributes something after the
fault, or at the outermost filter. If it is folded by conjunction the fault can
only let more rows through, and if it is folded by disjunction only fewer.
`Compiler.lossOperators` finds the operator of this place.
-/

namespace Criteria

namespace Filter

/-- The filter whose accessor finds the slot under the name. -/
def withSlot (f : Filter) (field : String) (slot : Slot) : Filter :=
  .mk f.name f.fields ((field, slot) :: f.slots)

theorem read_withSlot_broken (f : Filter) (field reason : String) :
    (f.withSlot field (.broken reason)).read field = .error (.unreadable field reason) := by
  rw [read, withSlot, slots, List.lookup_cons_self]

theorem read_withSlot_group (f : Filter) (field : String) (nested : Option Filter) :
    (f.withSlot field (.group nested)).read field = .ok (.group nested) := by
  rw [read, withSlot, slots, List.lookup_cons_self]

theorem read_withSlot_of_ne (f : Filter) {field other : String} (slot : Slot)
    (h : other ≠ field) : (f.withSlot field slot).read other = f.read other := by
  have hlookup : ((field, slot) :: f.slots).lookup other = f.slots.lookup other := by
    rw [List.lookup_cons, beq_false_of_ne h]
  rw [read, withSlot, slots, hlookup]
  rfl

/-- The filter in which reading a field fails, the field standing where the
address leads through groups. -/
def fault (reason field : String) : List String → Filter → Filter
  | [], f => f.withSlot field (.broken reason)
  | outer :: address, f =>
      match f.read outer with
      | .ok (.group (some g)) => f.withSlot outer (.group (some (fault reason field address g)))
      | _ => f

@[simp] theorem fields_fault (reason field : String) (address : List String) (f : Filter) :
    (f.fault reason field address).fields = f.fields := by
  cases address with
  | nil => rfl
  | cons outer address =>
      rw [fault]
      split <;> rfl

/-- What a fault does to the reading of a field: nothing, or the field cannot be
read, or it is a group in which the fault is one level further down. -/
theorem read_fault_cases (reason field : String) (address : List String) (f : Filter)
    (name : String) :
    (f.fault reason field address).read name = f.read name ∨
      (address = [] ∧ name = field ∧
        (f.fault reason field address).read name = .error (.unreadable field reason)) ∨
      ∃ rest g, address = name :: rest ∧ f.read name = .ok (.group (some g)) ∧
        (f.fault reason field address).read name =
          .ok (.group (some (g.fault reason field rest))) := by
  cases address with
  | nil =>
      by_cases hname : name = field
      · subst hname
        exact Or.inr (Or.inl ⟨rfl, rfl, f.read_withSlot_broken name reason⟩)
      · exact Or.inl (f.read_withSlot_of_ne (.broken reason) hname)
  | cons outer rest =>
      rw [fault]
      split
      · rename_i g hread
        by_cases hname : name = outer
        · subst hname
          exact Or.inr (Or.inr ⟨rest, g, rfl, hread, f.read_withSlot_group name _⟩)
        · exact Or.inl (f.read_withSlot_of_ne _ hname)
      · exact Or.inl rfl

end Filter

namespace Compiler

variable {ι : Type} (T : Compiler ι)

/-- The operators under which a predicate is lost by a fault: the one that folds
the filter of the field, and in its place that of the filter around it where no
other field contributes. A field that contributed nothing loses nothing. Several
operators are possible only where several declarations share a name. -/
def lossOperators (reason field : String) :
    List String → Nat → Operator → Filter → List Operator
  | [], levels, operator, f =>
      if f.fields.any fun d =>
          d.name == field && (T.emission? (T.nestedEmission? levels) f d).isSome then
        [operator]
      else []
  | outer :: address, levels, operator, f =>
      match levels, f.read outer with
      | below + 1, .ok (.group (some g)) =>
          (f.fields.filter fun d => d.name == outer).flatMap fun d =>
            match d.tags.role with
            | .group inner =>
                if (T.compile below g).predicates.isEmpty then []
                else if (T.compile below (g.fault reason field address)).predicates.isEmpty then
                  [operator]
                else lossOperators reason field address below inner g
            | _ => []
      | _, _ => []

variable {T} (row : Row)

theorem fieldVerdict_congr {nested : Operator → Filter → Option Bool} {f g : Filter}
    {d : FieldDescriptor} (h : g.read d.name = f.read d.name) :
    T.fieldVerdict row nested g d = T.fieldVerdict row nested f d := by
  rw [fieldVerdict, h]
  rfl

theorem fieldVerdict_of_read_error {nested : Operator → Filter → Option Bool} {f : Filter}
    {d : FieldDescriptor} {cause : AccessError} (h : f.read d.name = .error cause) :
    T.fieldVerdict row nested f d = none := by
  rw [fieldVerdict, h]
  rfl

theorem fieldVerdict_of_read_group {nested : Operator → Filter → Option Bool} {f g : Filter}
    {d : FieldDescriptor} (h : f.read d.name = .ok (.group (some g))) :
    T.fieldVerdict row nested f d =
      match d.tags.role with
      | .group inner => nested inner g
      | _ => none := by
  rw [fieldVerdict, h]
  rfl

theorem verdicts_eq_nil_iff {levels : Nat} {f : Filter} :
    T.verdicts row levels f = [] ↔
      ∀ d ∈ f.fields, T.fieldVerdict row (T.nestedVerdict row levels) f d = none := by
  rw [verdicts, List.filterMap_eq_nil_iff]

theorem isEmpty_compile (levels : Nat) (f : Filter) :
    (T.compile levels f).predicates.isEmpty = (T.verdicts row levels f).isEmpty := by
  rw [← map_holds_compile, List.isEmpty_map]

theorem isSome_emission? (levels : Nat) (f : Filter) (d : FieldDescriptor) :
    (T.emission? (T.nestedEmission? levels) f d).isSome =
      (T.fieldVerdict row (T.nestedVerdict row levels) f d).isSome := by
  rw [← T.map_holds_emission? row (T.map_holds_nestedEmission? row levels), Option.isSome_map]

/-- A field that abstained still does after a fault. -/
theorem fieldVerdict_fault_eq_none {reason field : String} {address : List String}
    {levels : Nat} {f : Filter} {d : FieldDescriptor}
    (h : T.fieldVerdict row (T.nestedVerdict row levels) f d = none) :
    T.fieldVerdict row (T.nestedVerdict row levels) (f.fault reason field address) d = none := by
  -- The address loses its first name where the fault lies in a group.
  induction address generalizing levels f d with
  | nil =>
      rcases f.read_fault_cases reason field [] d.name with hsame | ⟨_, _, hbroken⟩ | ⟨_, _, h', _⟩
      · rw [fieldVerdict_congr row hsame, h]
      · exact fieldVerdict_of_read_error row hbroken
      · cases h'
  | cons outer address ih =>
      rcases f.read_fault_cases reason field (outer :: address) d.name with
        hsame | ⟨h', _⟩ | ⟨rest, g, haddress, hread, hfault⟩
      · rw [fieldVerdict_congr row hsame, h]
      · cases h'
      · obtain ⟨rfl, rfl⟩ := List.cons.inj haddress
        rw [fieldVerdict_of_read_group row hread] at h
        rw [fieldVerdict_of_read_group row hfault]
        cases hrole : d.tags.role with
        | group inner =>
            rw [hrole] at h
            cases levels with
            | zero => rfl
            | succ below =>
                have hnil : T.verdicts row below g = [] := (Operator.settle_eq_none_iff inner).mp h
                rw [verdicts_eq_nil_iff] at hnil
                refine (Operator.settle_eq_none_iff inner).mpr ?_
                change T.verdicts row below (g.fault reason field address) = []
                rw [verdicts_eq_nil_iff, Filter.fields_fault]
                intro e he
                exact ih (hnil e he)
        | _ => rfl

theorem verdicts_fault_eq_nil {reason field : String} {address : List String} {levels : Nat}
    {f : Filter} (h : T.verdicts row levels f = []) :
    T.verdicts row levels (f.fault reason field address) = [] := by
  rw [verdicts_eq_nil_iff] at h ⊢
  intro d hd
  rw [Filter.fields_fault] at hd
  exact fieldVerdict_fault_eq_none row (h d hd)

theorem toward_value_verdicts {levels : Nat} {op o : Operator} {f g : Filter}
    (hfields : g.fields = f.fields)
    (h : ∀ d ∈ f.fields, op.Change o (T.fieldVerdict row (T.nestedVerdict row levels) f d)
      (T.fieldVerdict row (T.nestedVerdict row levels) g d)) :
    o.Toward (op.value (T.verdicts row levels f)) (op.value (T.verdicts row levels g)) := by
  rw [verdicts, verdicts, hfields]
  exact Operator.toward_value_filterMap h

theorem mem_lossOperators_nil {reason field : String} {levels : Nat} {op : Operator} {f : Filter}
    {d : FieldDescriptor} {x : Bool} (hd : d ∈ f.fields) (hname : d.name = field)
    (hverdict : T.fieldVerdict row (T.nestedVerdict row levels) f d = some x) :
    op ∈ T.lossOperators reason field [] levels op f := by
  have hany : (f.fields.any fun e =>
      e.name == field && (T.emission? (T.nestedEmission? levels) f e).isSome) = true :=
    List.any_eq_true.mpr ⟨d, hd, by simp [isSome_emission? row, hverdict, hname]⟩
  rw [lossOperators, if_pos hany]
  exact List.mem_singleton_self op

theorem mem_lossOperators_cons {reason field : String} {address : List String} {below : Nat}
    {op p inner : Operator} {f g : Filter} {d : FieldDescriptor} (hd : d ∈ f.fields)
    (hread : f.read d.name = .ok (.group (some g))) (hrole : d.tags.role = .group inner)
    (hp : p ∈ if (T.compile below g).predicates.isEmpty then []
      else if (T.compile below (g.fault reason field address)).predicates.isEmpty then [op]
      else T.lossOperators reason field address below inner g) :
    p ∈ T.lossOperators reason field (d.name :: address) (below + 1) op f := by
  unfold lossOperators
  rw [hread]
  refine List.mem_flatMap.mpr ⟨d, List.mem_filter.mpr ⟨hd, beq_self_eq_true d.name⟩, ?_⟩
  rw [hrole]
  exact hp

/-- The verdict of a nested filter changes towards `o` or is lost under it, if the
same holds of all its fields. -/
theorem change_settle_fault {reason field : String} {address : List String} {below : Nat}
    {op inner o : Operator} {g : Filter}
    (hlost : T.verdicts row below g ≠ [] →
      T.verdicts row below (g.fault reason field address) = [] → op = o)
    (hfields : T.verdicts row below g ≠ [] →
      T.verdicts row below (g.fault reason field address) ≠ [] →
      ∀ e ∈ g.fields, inner.Change o (T.fieldVerdict row (T.nestedVerdict row below) g e)
        (T.fieldVerdict row (T.nestedVerdict row below) (g.fault reason field address) e)) :
    op.Change o (inner.settle (T.verdicts row below g))
      (inner.settle (T.verdicts row below (g.fault reason field address))) := by
  refine Operator.change_settle (verdicts_fault_eq_nil row) hlost ?_
  intro hafter
  have hbefore : T.verdicts row below g ≠ [] :=
    fun hnil => hafter (verdicts_fault_eq_nil row hnil)
  exact toward_value_verdicts row (Filter.fields_fault _ _ _ g) (hfields hbefore hafter)

/-- What becomes of the verdict of a declared field, if all predicates are lost
under the operator `o`. -/
theorem change_fieldVerdict_fault {reason field : String} {address : List String} {levels : Nat}
    {op o : Operator} {f : Filter}
    (h : ∀ p ∈ T.lossOperators reason field address levels op f, p = o)
    {d : FieldDescriptor} (hd : d ∈ f.fields) :
    op.Change o (T.fieldVerdict row (T.nestedVerdict row levels) f d)
      (T.fieldVerdict row (T.nestedVerdict row levels) (f.fault reason field address) d) := by
  induction address generalizing levels op f d with
  | nil =>
      rcases f.read_fault_cases reason field [] d.name with
        hsame | ⟨_, hname, hbroken⟩ | ⟨_, _, h', _⟩
      · rw [fieldVerdict_congr row hsame]
        exact .same _
      · rw [fieldVerdict_of_read_error row hbroken]
        cases hverdict : T.fieldVerdict row (T.nestedVerdict row levels) f d with
        | none => exact .same none
        | some x => exact .lost x (h op (mem_lossOperators_nil row hd hname hverdict))
      · cases h'
  | cons outer address ih =>
      rcases f.read_fault_cases reason field (outer :: address) d.name with
        hsame | ⟨h', _⟩ | ⟨rest, g, haddress, hread, hfault⟩
      · rw [fieldVerdict_congr row hsame]
        exact .same _
      · cases h'
      · obtain ⟨rfl, rfl⟩ := List.cons.inj haddress
        rw [fieldVerdict_of_read_group row hread, fieldVerdict_of_read_group row hfault]
        cases hrole : d.tags.role with
        | group inner =>
            cases levels with
            | zero => exact .same none
            | succ below =>
                -- The group is lost as a whole, or the fault is felt further inside.
                refine change_settle_fault row ?_ ?_
                · intro hbefore hafter
                  refine h op (mem_lossOperators_cons hd hread hrole ?_)
                  rw [isEmpty_compile row, isEmpty_compile row, hafter,
                    List.isEmpty_eq_false_iff.mpr hbefore]
                  exact List.mem_singleton_self op
                · intro hbefore hafter e he
                  refine ih (fun p hp => h p (mem_lossOperators_cons hd hread hrole ?_)) he
                  rw [isEmpty_compile row, isEmpty_compile row,
                    List.isEmpty_eq_false_iff.mpr hbefore, List.isEmpty_eq_false_iff.mpr hafter]
                  exact hp
        | _ => exact .same none

end Compiler

namespace Session

variable {ι : Type}

/-- The row is admitted by the fold of what has been gathered. Without a fold
every row is. -/
def admits (s : Session ι) (row : Row) : Bool :=
  s.build.all (Predicate.holds s.compiler.dialect row)

theorem admits_add_fresh (T : Compiler ι) (f : Filter) (row : Row) :
    ((fresh T).add f).admits row =
      Operator.and.value (T.verdicts row T.settings.maxGroupDepth f) := by
  rw [← T.map_holds_compile row, ← Predicate.all_holds_fold, admits, build,
    compiler_add, foldWith_add_fresh]
  rfl

/-- A fault of one field, anywhere in a filter, can only let more rows through
where what it loses is lost under conjunctions, and only fewer where it is lost
under disjunctions. -/
theorem toward_admits_fault {T : Compiler ι} {f : Filter} {reason field : String}
    {address : List String} {o : Operator}
    (h : ∀ op ∈ T.lossOperators reason field address T.settings.maxGroupDepth .and f, op = o)
    (row : Row) :
    o.Toward (((fresh T).add f).admits row)
      (((fresh T).add (f.fault reason field address)).admits row) := by
  rw [admits_add_fresh, admits_add_fresh]
  refine Compiler.toward_value_verdicts row (Filter.fields_fault reason field address f) ?_
  intro d hd
  exact Compiler.change_fieldVerdict_fault row h hd

end Session

/-- Persons called Ann, or three years old. -/
def Filter.annOrThree : Filter :=
  .mk "Outer" [⟨"either", { group := some .or }⟩]
    [("either", .group (some (.mk "Either" [⟨"name", {}⟩, ⟨"age", {}⟩]
      [("name", .value (.text "Ann")), ("age", .value (.int 3))])))]

theorem Session.toward_admits_ann :
    Operator.or.Toward (((fresh .friends).add .annOrThree).admits .ann)
        (((fresh .friends).add (Filter.annOrThree.fault "lost" "name" ["either"])).admits .ann) ∧
      Operator.and.Toward (((fresh .friends).add .annOrThree).admits .ann)
        (((fresh .friends).add (Filter.annOrThree.fault "lost" "either" [])).admits .ann) := by
  have hinner : Compiler.friends.lossOperators "lost" "name" ["either"] 32 .and .annOrThree =
      [.or] := rfl
  have houter : Compiler.friends.lossOperators "lost" "either" [] 32 .and .annOrThree =
      [.and] := rfl
  constructor
  · exact toward_admits_fault (fun op hop => List.mem_singleton.mp (hinner ▸ hop)) .ann
  · exact toward_admits_fault (fun op hop => List.mem_singleton.mp (houter ▸ hop)) .ann

/-- A fault in a disjunction can shut a row out. -/
theorem Session.not_admits_ann_of_fault :
    ((fresh .friends).add .annOrThree).admits .ann = true ∧
      ((fresh .friends).add (Filter.annOrThree.fault "lost" "name" ["either"])).admits .ann =
        false := by
  rw [admits_add_fresh, admits_add_fresh]
  exact ⟨rfl, rfl⟩

end Criteria
