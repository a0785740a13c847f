import Criteria.Compilation.Compiler
import Criteria.Predicate.Evaluation

/-!
# Sessions

A session gathers predicates and skip records from several filters of one entity,
until it is cleared. Folding what has been gathered changes nothing, so a session
may be folded at any time and more than once.

A filter is added field by field, and each field hands the session on to the next
one. For a group field a session of its own is opened, one level further down, and
the nested filter is added to it. Its records are then taken over under the name of
the group field, and its predicates are folded into the predicate of the group.
-/

namespace Criteria

/-- Predicates and skip records gathered so far. -/
structure Session (ι : Type) where
  compiler : Compiler ι
  predicates : List Predicate := []
  diagnostics : Diagnostics := []
  /-- Number of groups around the filters that are added. -/
  depth : Nat := 0

namespace Session

variable {ι : Type}

/-- Adds a predicate that does not come from a filter. -/
def addPredicate (s : Session ι) (p : Predicate) : Session ι :=
  { s with predicates := s.predicates ++ [p] }

/-- Leaves a field out, for a reason that is recorded if the settings ask for it. -/
def skip (s : Session ι) (field : String) (reason : SkipReason) : Session ι :=
  if s.compiler.settings.collectDiagnostics then
    { s with diagnostics := s.diagnostics.record field reason }
  else s

/-- Takes over the records of the nested filter in the field `parent`. -/
def absorb (s : Session ι) (parent : String) (nested : Diagnostics) : Session ι :=
  { s with diagnostics := s.diagnostics.absorb parent nested }

/-- An empty session for a nested filter. -/
def child (s : Session ι) : Session ι := { compiler := s.compiler, depth := s.depth + 1 }

def clear (s : Session ι) : Session ι := { s with predicates := [], diagnostics := [] }

/-- Folds what has been gathered; none means no constraint. -/
def foldWith (s : Session ι) (operator : Operator) : Option Predicate :=
  operator.fold s.predicates

/-- Folds what has been gathered, all of it being asked for. -/
def build (s : Session ι) : Option Predicate := s.foldWith .and

/-- What becomes of a field: a predicate, deliberate silence or a failure. -/
abbrev Outcome := Except SkipReason (Option Predicate)

/-- Adds the predicate of a field, or leaves the field out. -/
def conclude (s : Session ι) (field : String) : Outcome → Session ι
  | .ok (some p) => s.addPredicate p
  | .ok none => s
  | .error reason => s.skip field reason

/-- Enters a nested filter, unless there are too many groups around it. -/
def group (s : Session ι) (field : String) (operator : Operator)
    (enter : Session ι → Session ι) : Outcome × Session ι :=
  if s.compiler.settings.maxGroupDepth ≤ s.depth then
    (.error (.groupTooDeep s.compiler.settings.maxGroupDepth), s)
  else
    let nested := enter s.child
    (.ok (nested.foldWith operator), s.absorb field nested.diagnostics)

section Fields

/- How the nested filters of a filter are added to a session. -/
variable (s : Session ι) (f : Filter) (enter : (g : Filter) → f.Nests g → Session ι → Session ι)

/-- Reads a field and makes of the input what its role asks for. -/
def translate (m : FieldMetadata) : Outcome × Session ι :=
  match hread : f.read m.field with
  | .error cause => (.error (.accessorFailure cause), s)
  | .ok input =>
      if Compiler.isUnset m input then (.ok none, s)
      else
        match m.role, input, hread with
        | .group operator, .group (some g), hread =>
            s.group m.field operator (enter g ⟨m.field, hread⟩)
        | _, input, _ => (s.compiler.constraint m input, s)

def addField (d : FieldDescriptor) : Session ι :=
  let m := d.metadata
  let (outcome, t) := s.translate f enter m
  t.conclude m.field outcome

/-- Adds the fields of a filter in declaration order. -/
def addFields : Session ι := f.fields.foldl (fun t d => t.addField f enter d) s

end Fields

/-- Adds a filter, and on the way the filters that it holds. -/
def add (s : Session ι) (f : Filter) : Session ι :=
  s.addFields f fun g _ nested => nested.add g
termination_by sizeOf f
decreasing_by exact Filter.sizeOf_lt_of_nests ‹f.Nests g›

end Session

/-- The predicate of one filter alone, under default settings. -/
def Filter.toPredicate {ι : Type} (f : Filter) (schema : Schema ι) (root : ι)
    (unaccent : String → String) : Option Predicate :=
  (Session.add { compiler := ⟨schema, root, {}, unaccent⟩ } f).build

end Criteria
