import Criteria.Predicate.Fold

/-!
# Nodes of a predicate

`Predicate.nodes` lists a tree with everything below it, and `Predicate.refs` the
references met on the way, at the bottom of every expression. Combining and
folding add binary nodes only; every other node was there before.
-/

namespace Criteria.Predicate

mutual

/-- The nodes of a tree, each in front of those below it. -/
def nodes : Predicate → List Predicate
  | and children => and children :: nodesOfAll children
  | or children => or children :: nodesOfAll children
  | p => [p]

/-- The nodes of several trees. -/
def nodesOfAll : List Predicate → List Predicate
  | [] => []
  | p :: ps => p.nodes ++ nodesOfAll ps

end

/-- References in a node itself, not in those below it. -/
def ownRefs : Predicate → List PropertyRef
  | and _ | or _ => []
  | compare expr _ _ | like expr _ | oneOf expr _ | isNull expr | between expr _ _ =>
      [expr.propertyRef]
  | within _ lower upper => [lower.propertyRef, upper.propertyRef]

/-- References anywhere in a tree. -/
def refs (p : Predicate) : List PropertyRef := p.nodes.flatMap ownRefs

theorem nodesOfAll_eq_flatMap (ps : List Predicate) : nodesOfAll ps = ps.flatMap nodes := by
  induction ps with
  | nil => rfl
  | cons p ps ih => rw [nodesOfAll, ih, List.flatMap_cons]

theorem nodes_subset_and {ps : List Predicate} {p : Predicate} (hp : p ∈ ps) :
    p.nodes ⊆ (and ps).nodes := by
  intro q hq
  rw [nodes, nodesOfAll_eq_flatMap]
  exact List.mem_cons_of_mem _ (List.mem_flatMap_of_mem hp hq)

theorem nodes_subset_or {ps : List Predicate} {p : Predicate} (hp : p ∈ ps) :
    p.nodes ⊆ (or ps).nodes := by
  intro q hq
  rw [nodes, nodesOfAll_eq_flatMap]
  exact List.mem_cons_of_mem _ (List.mem_flatMap_of_mem hp hq)

theorem refs_mono {p q : Predicate} (h : p.nodes ⊆ q.nodes) : p.refs ⊆ q.refs := by
  intro ref href
  obtain ⟨r, hr, href⟩ := List.mem_flatMap.mp href
  exact List.mem_flatMap_of_mem (h hr) href

/-- Induction on a tree, with the hypothesis for every child of a node. -/
@[elab_as_elim]
theorem treeInduction {motive : Predicate → Prop}
    (and : ∀ ps, (∀ p ∈ ps, motive p) → motive (.and ps))
    (or : ∀ ps, (∀ p ∈ ps, motive p) → motive (.or ps))
    (compare : ∀ expr op value, motive (.compare expr op value))
    (like : ∀ expr pattern, motive (.like expr pattern))
    (oneOf : ∀ expr values, motive (.oneOf expr values))
    (isNull : ∀ expr, motive (.isNull expr))
    (between : ∀ expr lower upper, motive (.between expr lower upper))
    (within : ∀ value lower upper, motive (.within value lower upper))
    (p : Predicate) : motive p :=
  p.rec (motive_1 := motive) (motive_2 := fun ps => ∀ p ∈ ps, motive p)
    and or compare like oneOf isNull between within
    (fun _ hp => absurd hp List.not_mem_nil)
    (fun _ _ hp hps => List.forall_mem_cons.mpr ⟨hp, hps⟩)

/-- A node of two children under an operator. -/
def IsBinary (p : Predicate) : Prop := ∃ (op : Operator) (a b : Predicate), p = op.combine a b

theorem mem_nodes_combine {op : Operator} {a b q : Predicate} :
    q ∈ (op.combine a b).nodes ↔ q = op.combine a b ∨ q ∈ a.nodes ∨ q ∈ b.nodes := by
  cases op with
  | and => simp [Operator.combine, nodes, nodesOfAll]
  | or => simp [Operator.combine, nodes, nodesOfAll]

theorem ownRefs_of_isBinary {p : Predicate} (h : p.IsBinary) : p.ownRefs = [] := by
  obtain ⟨op, a, b, rfl⟩ := h
  cases op <;> rfl

theorem mem_nodes_foldl_combine {op : Operator} {p q : Predicate} {ps : List Predicate}
    (h : q ∈ (ps.foldl op.combine p).nodes) :
    q.IsBinary ∨ ∃ r ∈ p :: ps, q ∈ r.nodes := by
  induction ps generalizing p with
  | nil => exact Or.inr ⟨p, List.mem_singleton_self p, h⟩
  | cons r ps ih =>
      rcases ih h with hbinary | ⟨s, hs, hq⟩
      · exact Or.inl hbinary
      · rcases List.mem_cons.mp hs with rfl | hs
        · rcases mem_nodes_combine.mp hq with rfl | hp | hr
          · exact Or.inl ⟨op, p, r, rfl⟩
          · exact Or.inr ⟨p, List.mem_cons_self, hp⟩
          · exact Or.inr ⟨r, List.mem_cons_of_mem p List.mem_cons_self, hr⟩
        · exact Or.inr ⟨s, List.mem_cons_of_mem p (List.mem_cons_of_mem r hs), hq⟩

/-- A node of a fold is binary or stands in one of the folded trees. -/
theorem mem_nodes_of_fold {op : Operator} {ps : List Predicate} {p q : Predicate}
    (hp : op.fold ps = some p) (hq : q ∈ p.nodes) :
    q.IsBinary ∨ ∃ r ∈ ps, q ∈ r.nodes := by
  cases ps with
  | nil => cases hp
  | cons r ps =>
      obtain rfl := Option.some.inj hp
      exact mem_nodes_foldl_combine hq

end Criteria.Predicate
