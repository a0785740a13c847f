import Criteria.Compilation.Compiler

/-!
# Contributions

What a filter is compiled to, told without a session: the predicates and the skip
records that its fields contribute, joined in order. The predicates of a group are
folded with its operator into at most one, and its records are taken over under the
name of the group field.

`Compiler.compile` counts the levels that may still be followed; where none is left,
a group is skipped for being too deep. A session comes to hold the same, though it
is changed by every field on the way (`Session.add_eq_extend`).
-/

namespace Criteria

/-- Predicates and skip records of compiled fields. -/
structure Contribution where
  predicates : List Predicate := []
  skips : Diagnostics := []

namespace Contribution

def empty : Contribution := {}

def append (a b : Contribution) : Contribution :=
  ⟨a.predicates ++ b.predicates, a.skips ++ b.skips⟩

instance : Append Contribution := ⟨append⟩

@[simp] theorem predicates_append (a b : Contribution) :
    (a ++ b).predicates = a.predicates ++ b.predicates := rfl

@[simp] theorem skips_append (a b : Contribution) : (a ++ b).skips = a.skips ++ b.skips := rfl

theorem empty_append (a : Contribution) : empty ++ a = a := rfl

theorem append_empty (a : Contribution) : a ++ empty = a := by
  obtain ⟨ps, ss⟩ := a
  change (⟨ps ++ [], ss ++ []⟩ : Contribution) = ⟨ps, ss⟩
  simp

theorem append_assoc (a b c : Contribution) : a ++ b ++ c = a ++ (b ++ c) := by
  change (⟨_, _⟩ : Contribution) = ⟨_, _⟩
  simp

def join (parts : List Contribution) : Contribution := parts.foldr (· ++ ·) empty

@[simp] theorem join_nil : join [] = empty := rfl

@[simp] theorem join_cons (t : Contribution) (ts : List Contribution) :
    join (t :: ts) = t ++ join ts := rfl

theorem join_append (ts us : List Contribution) : join (ts ++ us) = join ts ++ join us := by
  induction ts with
  | nil => rfl
  | cons t ts ih => rw [List.cons_append, join_cons, join_cons, ih, append_assoc]

theorem predicates_join (ts : List Contribution) :
    (join ts).predicates = ts.flatMap (·.predicates) := by
  induction ts with
  | nil => rfl
  | cons t ts ih => rw [join_cons, predicates_append, ih, List.flatMap_cons]

theorem skips_join (ts : List Contribution) : (join ts).skips = ts.flatMap (·.skips) := by
  induction ts with
  | nil => rfl
  | cons t ts ih => rw [join_cons, skips_append, ih, List.flatMap_cons]

/-- The contribution of a predicate, or of deliberate silence. -/
def ofOption (p : Option Predicate) : Contribution := ⟨p.toList, []⟩

/-- The contribution of a nested filter, folded into its group field. -/
def folded (operator : Operator) (field : String) (nested : Contribution) : Contribution :=
  ⟨(operator.fold nested.predicates).toList, nested.skips.map (·.under field)⟩

end Contribution

namespace Compiler

variable {ι : Type}

def skipped (T : Compiler ι) (field : String) (reason : SkipReason) : Contribution :=
  ⟨[], if T.settings.collectDiagnostics then [⟨field, reason⟩] else []⟩

/-- Compiles an input past its accessor. Nested filters are compiled by `follow`,
which gives nothing where the level limit is reached. -/
def compileInput (T : Compiler ι) (follow : Filter → Option Contribution)
    (m : FieldMetadata) (input : FieldInput) : Contribution :=
  if isUnset m input then .empty
  else
    match m.role, input with
    | .group operator, .group (some nested) =>
        match follow nested with
        | some t => t.folded operator m.field
        | none => T.skipped m.field (.groupTooDeep T.settings.maxGroupDepth)
    | _, _ =>
        match T.constraint m input with
        | .ok p => .ofOption p
        | .error reason => T.skipped m.field reason

def compileField (T : Compiler ι) (follow : Filter → Option Contribution)
    (f : Filter) (d : FieldDescriptor) : Contribution :=
  match f.read d.name with
  | .error cause => T.skipped d.name (.accessorFailure cause)
  | .ok input => T.compileInput follow d.metadata input

def compileFields (T : Compiler ι) (follow : Filter → Option Contribution) (f : Filter) :
    Contribution :=
  .join (f.fields.map (T.compileField follow f))

/-- Compiles a filter, following groups for the given number of levels. -/
def compile (T : Compiler ι) : Nat → Filter → Contribution
  | 0, f => T.compileFields (fun _ => none) f
  | levels + 1, f => T.compileFields (fun nested => some (T.compile levels nested)) f

end Compiler

end Criteria
