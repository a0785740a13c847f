import Criteria.Proofs.Compilation.Run
import Criteria.Proofs.Compilation.Visit
import Mathlib.Data.List.DropRight

/-!
# Locality of compilation

A session is changed by every call, and by every field of a filter on the way. All
the same no piece of what it holds depends on another one. Each call since the session
was last cleared adds what it would add to a fresh session, and a filter adds what its
fields would add if each was declared alone, in a session inside of as many groups.
The same holds inside of groups: where two filters read alike but for one place,
all fields off that place contribute the same (`reportsOff_visits_of_alikeOff`).
-/

namespace Criteria

/-- The call forgets what has been gathered. -/
def Call.clears : Call → Bool
  | clear => true
  | _ => false

/-- The calls made since the last one that cleared the session. -/
def Call.sinceClear (calls : List Call) : List Call := calls.rtakeWhile fun c => !c.clears

namespace Filter

/-- The filter that declares only the one field, read by the same accessor. -/
def only (f : Filter) (d : FieldDescriptor) : Filter := .mk f.name [d] f.slots

/-- Two filters declare the same fields and read alike, but for what lies at a
place: a field at the end of a path through groups. -/
def AlikeOff : List String → Filter → Filter → Prop
  | [], _, _ => True
  | name :: place, f, g =>
      g.fields = f.fields ∧ (∀ other, other ≠ name → g.read other = f.read other) ∧
        (place = [] ∨
          ∃ f' g', f.read name = .ok (.group (some f')) ∧ g.read name = .ok (.group (some g')) ∧
            AlikeOff place f' g')

/-- The accessor finds under another name what it would find without the slot. -/
theorem read_cons_of_ne {name field other : String} {fields : List FieldDescriptor} {slot : Slot}
    {slots : List (String × Slot)} (h : other ≠ field) :
    (mk name fields ((field, slot) :: slots)).read other = (mk name fields slots).read other := by
  have hlookup : ((field, slot) :: slots).lookup other = slots.lookup other := by
    rw [List.lookup_cons, beq_false_of_ne h]
  rw [read, Filter.slots, hlookup]
  rfl

theorem nested?_congr {f g : Filter} {d : FieldDescriptor} (h : g.read d.name = f.read d.name) :
    g.nested? d = f.nested? d := by
  rw [nested?, h]
  rfl

end Filter

/-- The field lies neither at the place, nor around it, nor behind it. -/
def Visit.isOff (place : List String) (v : Visit) : Bool :=
  !(v.path.isPrefixOf place || place.isPrefixOf v.path)

theorem Visit.isOff_under (name : String) (place : List String) (v : Visit) :
    (v.under name).isOff (name :: place) = v.isOff place := by
  simp [isOff]

theorem Visit.isOff_nil (v : Visit) : v.isOff [] = false := by
  simp [isOff]

namespace Compiler

variable {ι : Type} (T : Compiler ι)

/-- A field that is met, by its path, with what it contributes. -/
def report (v : Visit) : List String × FieldDescriptor × Contribution :=
  (v.path, v.field, T.visit v)

/-- What is met off a place, with what it contributes. -/
def reportsOff (place : List String) (vs : List Visit) :
    List (List String × FieldDescriptor × Contribution) :=
  (vs.filter (Visit.isOff place)).map T.report

theorem reportsOff_nil_place (vs : List Visit) : T.reportsOff [] vs = [] := by
  have hnone : Visit.isOff [] = fun _ => false := funext Visit.isOff_nil
  rw [reportsOff, hnone, List.filter_false, List.map_nil]

/-- A field that reads the same makes the same reports, and so does all that is met
behind it. -/
theorem reportsOff_cons_of_read_eq {place : List String} {levels : Nat} {f g : Filter}
    {d : FieldDescriptor} (h : g.read d.name = f.read d.name) :
    T.reportsOff place (⟨[], g, d, levels⟩ :: (Visit.mk [] g d levels).below) =
      T.reportsOff place (⟨[], f, d, levels⟩ :: (Visit.mk [] f d levels).below) := by
  have hoff : Visit.isOff place ⟨[], g, d, levels⟩ = Visit.isOff place ⟨[], f, d, levels⟩ := rfl
  have hown : T.report ⟨[], g, d, levels⟩ = T.report ⟨[], f, d, levels⟩ := by
    rw [report, report, visit, visit, T.compileField_congr _ h]
    rfl
  have hbelow : (Visit.mk [] g d levels).below = (Visit.mk [] f d levels).below := by
    rw [Visit.below, Visit.below, Visit.follows?, Visit.follows?, Filter.nested?_congr h]
  rw [reportsOff, reportsOff, List.filter_cons, List.filter_cons, hoff, hbelow]
  split
  · rw [List.map_cons, List.map_cons, hown]
  · rfl

theorem reportsOff_cons_self (place : List String) (levels : Nat) (f : Filter)
    (d : FieldDescriptor) :
    T.reportsOff (d.name :: place) (⟨[], f, d, levels⟩ :: (Visit.mk [] f d levels).below) =
      T.reportsOff (d.name :: place) (Visit.mk [] f d levels).below := by
  have hown : Visit.isOff (d.name :: place) ⟨[], f, d, levels⟩ = false := by
    simp [Visit.isOff, Visit.path]
  rw [reportsOff, reportsOff, List.filter_cons, hown]
  rfl

theorem reportsOff_below (place : List String) (v : Visit) :
    T.reportsOff (v.field.name :: place) v.below =
      match v.follows? with
      | some (_, g) =>
          (T.reportsOff place (g.visits (v.levels - 1))).map fun r => (v.field.name :: r.1, r.2)
      | none => [] := by
  exact v.map_filter_below (fun _ => rfl) (Visit.isOff_under v.field.name place)

/-- Where two filters read alike off a place, the fields off it contribute the same,
in the filters themselves and inside of their groups. -/
theorem reportsOff_visits_of_alikeOff {place : List String} {f g : Filter}
    (h : f.AlikeOff place g) (levels : Nat) :
    T.reportsOff place (g.visits levels) = T.reportsOff place (f.visits levels) := by
  -- Above the place every other field reads the same; at the name in question the two
  -- filters either differ at will or hold groups that are alike off the rest of the place.
  induction place generalizing f g levels with
  | nil => rw [reportsOff_nil_place, reportsOff_nil_place]
  | cons name place ih =>
      obtain ⟨hfields, hread, hplace⟩ := h
      rw [Filter.visits_eq_flatMap, Filter.visits_eq_flatMap, hfields, reportsOff, reportsOff,
        List.filter_flatMap, List.filter_flatMap, List.map_flatMap, List.map_flatMap]
      congr 1
      funext d
      by_cases hd : d.name = name
      · subst hd
        change T.reportsOff (d.name :: place) _ = T.reportsOff (d.name :: place) _
        have hbelow (h : Filter) := T.reportsOff_below place ⟨[], h, d, levels⟩
        rw [reportsOff_cons_self, reportsOff_cons_self, hbelow, hbelow]
        rcases hplace with rfl | ⟨f', g', hf, hg, hnested⟩
        · simp only [reportsOff_nil_place, List.map_nil]
          cases (Visit.mk [] g d levels).follows? <;>
            cases (Visit.mk [] f d levels).follows? <;> rfl
        · simp only [Visit.follows?, Filter.nested?, hf, hg]
          cases levels with
          | zero => rfl
          | succ levels =>
              cases d.tags.role with
              | group operator => exact congrArg _ (ih hnested levels)
              | _ => rfl
      · exact T.reportsOff_cons_of_read_eq (hread d.name hd)

end Compiler

namespace Session

variable {ι : Type}

/-- A session for filters that stand inside of so many groups. -/
def inside (T : Compiler ι) (depth : Nat) : Session ι := { compiler := T, depth }

theorem contents_add_only (s : Session ι) (groups : List String) (f : Filter)
    (d : FieldDescriptor) :
    (s.add (f.only d)).contents = s.contents ++ s.compiler.visit ⟨groups, f, d, s.levels⟩ := by
  rw [contents_add, Compiler.compile_eq_join_visit]
  exact congrArg (s.contents ++ ·) (Contribution.append_empty _)

/-- A field that is met adds what it would add alone to a session of its own, inside of
as many groups. -/
theorem visit_eq_contents_add_only (T : Compiler ι) {f : Filter} {v : Visit}
    (hv : v ∈ f.visits T.settings.maxGroupDepth) :
    T.visit v = ((inside T v.groups.length).add (v.filter.only v.field)).contents := by
  have hlevels : (inside T v.groups.length).levels = v.levels := by
    have hcount := Filter.length_groups_add_levels hv
    simp only [levels, inside]
    omega
  rw [contents_add_only _ v.groups, hlevels]
  rfl

/-- A call that does not clear adds what it adds to the session without its contents. -/
theorem contents_call {s : Session ι} {c : Call} (h : c.clears = false) :
    (s.call c).contents = s.contents ++ (s.clear.call c).contents := by
  cases c with
  | add f =>
      rw [call, call, contents_add, contents_add]
      rfl
  | addPredicate p =>
      change (⟨_, _⟩ : Contribution) = ⟨_, _⟩
      simp [call, addPredicate, clear, contents]
  | clear => cases h
  | fold operator => exact (s.contents.append_empty).symm

theorem run_append (s : Session ι) (before after : List Call) :
    s.run (before ++ after) = (s.run before).run after := List.foldl_append

theorem contents_run_fresh (T : Compiler ι) (calls : List Call) :
    ((fresh T).run calls).contents =
      .join ((Call.sinceClear calls).map fun c => ((fresh T).call c).contents) := by
  -- The last call either clears or adds to what the calls before it have left.
  induction calls using List.reverseRecOn with
  | nil => rfl
  | append_singleton calls c ih =>
      have hcall : (fresh T).run (calls ++ [c]) = ((fresh T).run calls).call c :=
        run_append (fresh T) calls [c]
      rw [hcall, Call.sinceClear, List.rtakeWhile_concat]
      cases hclears : c.clears with
      | true =>
          cases c with
          | clear => rfl
          | _ => cases hclears
      | false =>
          rw [contents_call hclears, clear_run, ih, Bool.not_false, if_pos rfl, List.map_append,
            Contribution.join_append, Call.sinceClear]
          exact congrArg _ (Contribution.append_empty _).symm

end Session

/-- A run leaves the contributions of its calls since the last that cleared, and a
filter makes the contributions of its fields. A field can be read in any other way,
in the filter or deep inside its groups, and every field off its place contributes
as before; inside of groups too, a field contributes what it adds alone to a session of
its own. What was gathered before a session is cleared and the folds in between leave
no trace. -/
theorem Session.contents_run {ι : Type} (T : Compiler ι) :
    (∀ calls, ((fresh T).run calls).contents =
        .join ((Call.sinceClear calls).map fun c => ((fresh T).call c).contents)) ∧
      (∀ f, ((fresh T).add f).contents =
        .join (f.fields.map fun d => ((fresh T).add (f.only d)).contents)) ∧
      (∀ place f g, Filter.AlikeOff place f g →
        T.reportsOff place (g.visits T.settings.maxGroupDepth) =
          T.reportsOff place (f.visits T.settings.maxGroupDepth)) ∧
      (∀ f : Filter, ∀ v ∈ f.visits T.settings.maxGroupDepth,
        T.visit v = ((inside T v.groups.length).add (v.filter.only v.field)).contents) ∧
      (∀ before after, (fresh T).run (before ++ .clear :: after) = (fresh T).run after) ∧
      ∀ before operator after,
        (fresh T).run (before ++ .fold operator :: after) = (fresh T).run (before ++ after) := by
  refine ⟨contents_run_fresh T, fun f => ?_, ?_, fun f v hv => visit_eq_contents_add_only T hv,
    fun before after => ?_, ?_⟩
  · rw [contents_add_fresh, Compiler.compile_eq_join_visit]
    congr 1
    refine List.map_congr_left fun d _ => ?_
    exact (contents_add_only (fresh T) [] f d).symm
  · exact fun place f g h => T.reportsOff_visits_of_alikeOff h _
  · rw [run_append, run_cons, call, clear_run]
    rfl
  · intro before operator after
    rw [run_append, run_append, run_cons]
    rfl

theorem Session.reportsOff_search :
    Filter.AlikeOff ["either", "nick"] (.search (.value (.text "Kid"))) (.search (.broken "lost")) ∧
      Compiler.friends.reportsOff ["either", "nick"] ((Filter.search (.broken "lost")).visits 32) =
        Compiler.friends.reportsOff ["either", "nick"]
          ((Filter.search (.value (.text "Kid"))).visits 32) ∧
      Compiler.friends.visit ⟨["either"], .nicknamed (.broken "lost"), ⟨"name", {}⟩, 31⟩ =
        ((inside .friends 1).add
          ((Filter.nicknamed (.broken "lost")).only ⟨"name", {}⟩)).contents := by
  have hoff : Filter.AlikeOff ["either", "nick"] (.search (.value (.text "Kid")))
      (.search (.broken "lost")) := by
    refine ⟨rfl, fun other h => ?_, Or.inr ⟨_, _, rfl, rfl, rfl, fun other h => ?_, Or.inl rfl⟩⟩
    · exact (Filter.read_cons_of_ne h).trans (Filter.read_cons_of_ne h).symm
    · exact (Filter.read_cons_of_ne h).trans (Filter.read_cons_of_ne h).symm
  have hname : ⟨["either"], .nicknamed (.broken "lost"), ⟨"name", {}⟩, 31⟩ ∈
      (Filter.search (.broken "lost")).visits 32 :=
    List.mem_cons_of_mem _ (List.mem_cons_of_mem _ List.mem_cons_self)
  obtain ⟨-, -, halike, halone, -⟩ := contents_run .friends
  exact ⟨hoff, halike _ _ _ hoff, halone _ _ hname⟩

end Criteria
