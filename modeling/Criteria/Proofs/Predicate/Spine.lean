import Criteria.Proofs.Predicate.Truth
import Mathlib.Algebra.GroupWithZero.Nat
import Mathlib.Data.List.Basic
import Mathlib.Data.List.Induction

/-!
# The spine of a fold

A fold leans to the left. Its spine goes from the root through the left children;
peeled off step by step, it gives up the last of the folded predicates first and the
one at the bottom at the end. How far to peel has to be known, since a folded
predicate may itself be a node of the same operator: the number of predicates tells
where the spine ends and they begin. With it, a fold can be taken apart again
(`fold_eq_some_iff`), so folding loses neither a predicate nor its place.
-/

namespace Criteria

namespace Operator

/-- The two children of a binary node under the operator. -/
def children? (op : Operator) (p : Predicate) : Option (Predicate × Predicate) :=
  match op, p with
  | and, .and [acc, last] => some (acc, last)
  | or, .or [acc, last] => some (acc, last)
  | _, _ => none

/-- What is left of a tree when its spine is peeled `n` times, followed by what was
peeled off. -/
def spine? (op : Operator) : Nat → Predicate → Option (List Predicate)
  | 0, p => some [p]
  | n + 1, p => do
      let (acc, last) ← op.children? p
      let front ← op.spine? n acc
      return front ++ [last]

@[simp] theorem children?_combine (op : Operator) (acc last : Predicate) :
    op.children? (op.combine acc last) = some (acc, last) := by
  cases op <;> rfl

theorem children?_eq_some_iff {op : Operator} {p acc last : Predicate} :
    op.children? p = some (acc, last) ↔ p = op.combine acc last := by
  constructor
  · intro h
    unfold children? at h
    split at h
    · cases h
      rfl
    · cases h
      rfl
    · cases h
  · rintro rfl
    exact children?_combine op acc last

theorem spine?_succ_eq_some_iff {op : Operator} {n : Nat} {p : Predicate} {ps : List Predicate} :
    op.spine? (n + 1) p = some ps ↔
      ∃ acc last front, p = op.combine acc last ∧ op.spine? n acc = some front ∧
        ps = front ++ [last] := by
  rw [spine?]
  constructor
  · intro h
    obtain ⟨⟨acc, last⟩, hchildren, h⟩ := Option.bind_eq_some_iff.mp h
    obtain ⟨front, hfront, h⟩ := Option.bind_eq_some_iff.mp h
    exact ⟨acc, last, front, children?_eq_some_iff.mp hchildren, hfront,
      (Option.some.inj h).symm⟩
  · rintro ⟨acc, last, front, rfl, hfront, rfl⟩
    rw [children?_combine]
    change (op.spine? n acc).bind _ = _
    rw [hfront]
    rfl

/-- The last of the folded predicates is the right child of the root. -/
theorem fold_concat {op : Operator} {ps : List Predicate} {acc : Predicate}
    (h : op.fold ps = some acc) (last : Predicate) :
    op.fold (ps ++ [last]) = some (op.combine acc last) := by
  cases ps with
  | nil => cases h
  | cons p ps =>
      obtain rfl := Option.some.inj h
      rw [List.cons_append, fold, List.foldl_concat]

/-- Peeling the spine of a fold gives the folded predicates back. -/
theorem spine?_foldl (op : Operator) (p : Predicate) (ps : List Predicate) :
    op.spine? ps.length (ps.foldl op.combine p) = some (p :: ps) := by
  induction ps using List.reverseRecOn with
  | nil => rfl
  | append_singleton ps last ih =>
      rw [List.foldl_concat, List.length_append, List.length_singleton, spine?_succ_eq_some_iff]
      exact ⟨_, last, p :: ps, rfl, ih, rfl⟩

/-- A tree whose spine can be peeled is the fold of what comes off. -/
theorem fold_of_spine? {op : Operator} {n : Nat} {p : Predicate} {ps : List Predicate}
    (h : op.spine? n p = some ps) : op.fold ps = some p := by
  induction n generalizing p ps with
  | zero =>
      obtain rfl := Option.some.inj h
      rfl
  | succ n ih =>
      obtain ⟨acc, last, front, rfl, hfront, rfl⟩ := spine?_succ_eq_some_iff.mp h
      exact fold_concat (ih hfront) last

/-- The fold of predicates is the one tree whose spine consists of them. -/
theorem fold_eq_some_iff {op : Operator} {ps : List Predicate} {p : Predicate} :
    op.fold ps = some p ↔ ps ≠ [] ∧ op.spine? (ps.length - 1) p = some ps := by
  constructor
  · intro h
    cases ps with
    | nil => cases h
    | cons q ps =>
        obtain rfl := Option.some.inj h
        exact ⟨List.cons_ne_nil q ps, spine?_foldl op q ps⟩
  · rintro ⟨-, h⟩
    exact fold_of_spine? h

/-- Lists of one length that are folded to the same tree are the same. -/
theorem eq_of_fold_eq {op : Operator} {ps qs : List Predicate} (hlength : qs.length = ps.length)
    (h : op.fold qs = op.fold ps) : qs = ps := by
  cases hfold : op.fold ps with
  | none =>
      rw [hfold, fold_eq_none_iff] at h
      rw [fold_eq_none_iff] at hfold
      rw [h, hfold]
  | some p =>
      rw [hfold] at h
      obtain ⟨-, hqs⟩ := fold_eq_some_iff.mp h
      obtain ⟨-, hps⟩ := fold_eq_some_iff.mp hfold
      rw [hlength, hps] at hqs
      exact (Option.some.inj hqs).symm

/-- An operator reads two parts of a list together as it reads them apart. -/
theorem value_append (op : Operator) (bs cs : List Bool) :
    op.value (bs ++ cs) = op.value [op.value bs, op.value cs] := by
  cases op with
  | and => simp [value]
  | or => simp [value]

end Operator

namespace Predicate

theorem leafCount_combine (op : Operator) (p q : Predicate) :
    (op.combine p q).leafCount = p.leafCount + q.leafCount := by
  cases op with
  | and => simp [Operator.combine, leafCount, leafCounts]
  | or => simp [Operator.combine, leafCount, leafCounts]

theorem leafCount_foldl_combine (op : Operator) (p : Predicate) (ps : List Predicate) :
    (ps.foldl op.combine p).leafCount = p.leafCount + (ps.map leafCount).sum := by
  induction ps generalizing p with
  | nil => rfl
  | cons q ps ih =>
      rw [List.foldl_cons, ih, leafCount_combine, List.map_cons, List.sum_cons, Nat.add_assoc]

/-- A fold has the leaves of the folded predicates. -/
theorem leafCount_of_fold {op : Operator} {ps : List Predicate} {p : Predicate}
    (h : op.fold ps = some p) : p.leafCount = (ps.map leafCount).sum := by
  cases ps with
  | nil => cases h
  | cons q ps =>
      obtain rfl := Option.some.inj h
      rw [leafCount_foldl_combine, List.map_cons, List.sum_cons]

/-- A fold holds of the rows of which the operator makes its members hold. -/
theorem holds_of_fold {op : Operator} {ps : List Predicate} {p : Predicate}
    (h : op.fold ps = some p) (d : Dialect) (row : Row) :
    p.holds d row = op.value (ps.map (holds d row)) := by
  cases ps with
  | nil => cases h
  | cons q ps =>
      obtain rfl := Option.some.inj h
      exact holds_foldl_combine d row op q ps

/-- Two lists may be folded apart and the results combined. -/
theorem holds_of_fold_append {op : Operator} {ps qs : List Predicate} {p q r : Predicate}
    (hp : op.fold ps = some p) (hq : op.fold qs = some q) (hr : op.fold (ps ++ qs) = some r)
    (d : Dialect) (row : Row) : r.holds d row = (op.combine p q).holds d row := by
  rw [holds_combine, holds_of_fold hp, holds_of_fold hq, holds_of_fold hr, List.map_append,
    Operator.value_append]

end Predicate

/-- Folding loses nothing. No predicates have no fold, one predicate is its own, and
more are folded to the tree whose spine they are, in their order. The fold has their
leaves, holds where the operator makes them hold, and does not depend, as far as rows
are concerned, on where a list is cut in two before it is folded. -/
theorem Operator.fold_eq_spine (op : Operator) (ps : List Predicate) :
    (op.fold ps = none ↔ ps = []) ∧
      (∀ p, op.fold [p] = some p) ∧
      (∀ p, op.fold ps = some p ↔ ps ≠ [] ∧ op.spine? (ps.length - 1) p = some ps) ∧
      (∀ qs, qs.length = ps.length → op.fold qs = op.fold ps → qs = ps) ∧
      (∀ p, op.fold ps = some p → p.leafCount = (ps.map Predicate.leafCount).sum) ∧
      (∀ p, op.fold ps = some p →
        ∀ d row, p.holds d row = op.value (ps.map (Predicate.holds d row))) ∧
      ∀ qs p q, op.fold ps = some p → op.fold qs = some q →
        ∃ r, op.fold (ps ++ qs) = some r ∧
          ∀ d row, r.holds d row = (op.combine p q).holds d row := by
  refine ⟨op.fold_eq_none_iff ps, op.fold_singleton, fun p => fold_eq_some_iff, ?_, ?_, ?_, ?_⟩
  · intro qs hlength h
    exact eq_of_fold_eq hlength h
  · intro p h
    exact Predicate.leafCount_of_fold h
  · intro p h
    exact Predicate.holds_of_fold h
  · intro qs p q hp hq
    obtain ⟨hps, -⟩ := fold_eq_some_iff.mp hp
    have hsome : op.fold (ps ++ qs) ≠ none := by simp [hps]
    obtain ⟨r, hr⟩ := Option.ne_none_iff_exists'.mp hsome
    exact ⟨r, hr, Predicate.holds_of_fold_append hp hq hr⟩

/-- A folded predicate of the same operator looks like a part of the spine: the tree
alone does not tell how many predicates it was folded from. -/
example (op : Operator) (p q r : Predicate) :
    op.fold [op.combine p q, r] = op.fold [p, q, r] := rfl

/-- Asks for records in which a property is missing. -/
def Predicate.lacks (name : String) : Predicate := .isNull (.property (.navigate [name]))

/-- A member that is itself a disjunction stays one member. -/
theorem Operator.fold_eq_spine_lacks :
    let either := or.combine (.lacks "name") (.lacks "age")
    ∃ p r, or.fold [either, .lacks "friend"] = some p ∧
      or.spine? 1 p = some [either, .lacks "friend"] ∧ p.leafCount = 3 ∧
      or.fold [either, .lacks "friend", .lacks "nick"] = some r ∧
      ∀ d row, r.holds d row = (or.combine p (.lacks "nick")).holds d row := by
  intro either
  obtain ⟨-, -, hspine, -, hleaves, -, happend⟩ :=
    fold_eq_spine or [either, .lacks "friend"]
  have hfold : or.fold [either, .lacks "friend"] = some (or.combine either (.lacks "friend")) := rfl
  obtain ⟨r, hr, hrows⟩ := happend [.lacks "nick"] _ _ hfold (fold_singleton or _)
  exact ⟨_, r, hfold, ((hspine _).mp hfold).2, hleaves _ hfold, hr, hrows⟩

end Criteria
