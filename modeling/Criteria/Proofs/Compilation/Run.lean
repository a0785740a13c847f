import Criteria.Proofs.Compilation.Building

/-!
# Runs of a session

A host calls one session again and again. `Session.call` is the effect of one
call and `Session.run` that of several, in order. A session that is only fed with
filters holds what the filters added since it was last cleared are compiled to,
in the order in which they were added (`predicates_run_fresh`).

`Compiler.friends` is a small case at which general statements are tried.
-/

namespace Criteria

/-- A call of a session by its host. -/
inductive Call where
  | add (f : Filter)
  | addPredicate (p : Predicate)
  | clear
  | fold (operator : Operator)

/-- The filters that still count after a call. -/
def Call.keep (fs : List Filter) : Call → List Filter
  | add f => fs ++ [f]
  | clear => []
  | addPredicate _ | fold _ => fs

/-- The filters added since the last time that a session was cleared. -/
def Call.filters (calls : List Call) : List Filter := calls.foldl keep []

namespace Session

variable {ι : Type}

/-- A session that has gathered nothing yet. -/
def fresh (T : Compiler ι) : Session ι := { compiler := T }

/-- Predicates and records that have been gathered. -/
def contents (s : Session ι) : Contribution := ⟨s.predicates, s.diagnostics⟩

theorem contents_add (s : Session ι) (f : Filter) :
    (s.add f).contents = s.contents ++ s.compiler.compile s.levels f := by
  rw [add_eq_extend]
  rfl

theorem contents_add_fresh (T : Compiler ι) (f : Filter) :
    ((fresh T).add f).contents = T.compile T.settings.maxGroupDepth f :=
  contents_add (fresh T) f

theorem predicates_add_fresh (T : Compiler ι) (f : Filter) :
    ((fresh T).add f).predicates = (T.compile T.settings.maxGroupDepth f).predicates :=
  predicates_add (fresh T) f

theorem foldWith_add_fresh (T : Compiler ι) (f : Filter) (operator : Operator) :
    ((fresh T).add f).foldWith operator =
      operator.fold (T.compile T.settings.maxGroupDepth f).predicates := by
  rw [foldWith, predicates_add_fresh]

theorem records_add_fresh (T : Compiler ι) (f : Filter) :
    ((fresh T).add f).diagnostics = (T.compile T.settings.maxGroupDepth f).skips :=
  diagnostics_add (fresh T) f

/-- The effect of one call; a fold answers and changes nothing. -/
def call (s : Session ι) : Call → Session ι
  | .add f => s.add f
  | .addPredicate p => s.addPredicate p
  | .clear => s.clear
  | .fold _ => s

/-- The effect of several calls in order. -/
def run (s : Session ι) (calls : List Call) : Session ι := calls.foldl call s

theorem run_cons (s : Session ι) (c : Call) (calls : List Call) :
    s.run (c :: calls) = (s.call c).run calls := rfl

/-- Apart from what has been gathered, a call leaves a session as it was. -/
theorem clear_call (s : Session ι) (c : Call) : (s.call c).clear = s.clear := by
  cases c with
  | add f => rw [call, add_eq_extend, clear_extend]
  | _ => rfl

theorem clear_run (s : Session ι) (calls : List Call) : (s.run calls).clear = s.clear := by
  induction calls generalizing s with
  | nil => rfl
  | cons c calls ih => rw [run_cons, ih, clear_call]

@[simp] theorem compiler_run (s : Session ι) (calls : List Call) :
    (s.run calls).compiler = s.compiler := by
  have hclear := congrArg Session.compiler (clear_run s calls)
  exact hclear

@[simp] theorem levels_run (s : Session ι) (calls : List Call) :
    (s.run calls).levels = s.levels := by
  have hclear := congrArg Session.levels (clear_run s calls)
  exact hclear

/-- The session has gathered what these filters are compiled to, and nothing
else. -/
def Gathers (s : Session ι) (fs : List Filter) : Prop :=
  s.predicates = fs.flatMap fun f => (s.compiler.compile s.levels f).predicates

/-- A call that hands no predicate in leaves a session with the filters that the
call keeps. -/
theorem gathers_call {s : Session ι} {fs : List Filter} {c : Call}
    (hc : ∀ p, c ≠ .addPredicate p) (h : s.Gathers fs) : (s.call c).Gathers (c.keep fs) := by
  cases c with
  | add f =>
      rw [Gathers, call, predicates_add, compiler_add, levels_add, h, Call.keep,
        List.flatMap_append, List.flatMap_singleton]
  | addPredicate p => exact absurd rfl (hc p)
  | clear => rfl
  | fold operator => exact h

theorem gathers_run {s : Session ι} {fs : List Filter} {calls : List Call}
    (hcalls : ∀ p, .addPredicate p ∉ calls) (h : s.Gathers fs) :
    (s.run calls).Gathers (calls.foldl Call.keep fs) := by
  -- The session and the filters that still count are folded side by side.
  induction calls generalizing s fs with
  | nil => exact h
  | cons c calls ih =>
      have hc : ∀ p, c ≠ .addPredicate p := by
        intro p hp
        exact hcalls p (hp ▸ List.mem_cons_self)
      have hrest : ∀ p, .addPredicate p ∉ calls := by
        intro p hp
        exact hcalls p (List.mem_cons_of_mem c hp)
      rw [run_cons, List.foldl_cons]
      exact ih hrest (gathers_call hc h)

/-- A session that is only fed with filters holds what those are compiled to that
have been added since it was last cleared. -/
theorem predicates_run_fresh {T : Compiler ι} {calls : List Call}
    (hcalls : ∀ p, .addPredicate p ∉ calls) :
    ((fresh T).run calls).predicates =
      (Call.filters calls).flatMap fun f =>
        (T.compile T.settings.maxGroupDepth f).predicates := by
  have hfresh : (fresh T).Gathers [] := rfl
  have hrun := gathers_run hcalls hfresh
  rw [Gathers, compiler_run, levels_run] at hrun
  exact hrun

/-- What such a session holds comes from one of these filters. -/
theorem mem_predicates_run_fresh {T : Compiler ι} {calls : List Call}
    (hcalls : ∀ p, .addPredicate p ∉ calls) {p : Predicate}
    (h : p ∈ ((fresh T).run calls).predicates) :
    ∃ f ∈ Call.filters calls, p ∈ (T.compile T.settings.maxGroupDepth f).predicates := by
  rw [predicates_run_fresh hcalls] at h
  exact List.mem_flatMap.mp h

end Session

/-- Persons with their friends, a schema that runs in a circle. -/
def Schema.friends : Schema Unit :=
  ⟨fun _ => ⟨"Person", [⟨"name", .text⟩, ⟨"age", .int⟩, ⟨"friend", .relation ()⟩]⟩⟩

/-- Compilation for persons under default settings, accents being kept. -/
def Compiler.friends : Compiler Unit := ⟨.friends, (), {}, id⟩

/-- Ann, four years old. -/
def Row.ann : Row := Row.ofDotted fun column =>
  if column = "name" then some (.text "Ann") else if column = "age" then some (.int 4) else none

end Criteria
