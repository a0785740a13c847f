import Criteria.Predicate.Construction
import Criteria.Predicate.Evaluation
import Criteria.Proofs.Predicate.Tree

/-!
# What a predicate asks of a row

A predicate looks a row up at its references and nowhere else, and what it finds
there is a value or nothing: a stored null is nothing. So two rows that hold the
same at the references are told apart by no predicate (`holds_congr`).

A predicate without a test for missing values can only gain from what a row holds
in addition (`holds_mono`): each of its leaves needs values to be true, and goes by
these values alone.
-/

namespace Criteria

namespace Row

/-- The rows hold the same at the references, null and nothing being the same. -/
def AgreeAt (refs : List PropertyRef) (row row' : Row) : Prop :=
  ∀ ref ∈ refs, row.get ref = row'.get ref

/-- At the references the second row holds what the first one does, and possibly
values where the first one has none. -/
def ExtendsAt (refs : List PropertyRef) (row row' : Row) : Prop :=
  ∀ ref ∈ refs, ∀ v, row.get ref = some v → row'.get ref = some v

variable {refs refs' : List PropertyRef} {row row' : Row}

theorem AgreeAt.mono (h : AgreeAt refs row row') (hrefs : refs' ⊆ refs) :
    AgreeAt refs' row row' :=
  fun ref href => h ref (hrefs href)

theorem ExtendsAt.mono (h : ExtendsAt refs row row') (hrefs : refs' ⊆ refs) :
    ExtendsAt refs' row row' :=
  fun ref href => h ref (hrefs href)

end Row

namespace FieldExpr

variable {d : Dialect} {row row' : Row} {expr : FieldExpr}

/-- An expression reads the property at its bottom only. -/
theorem read_congr (h : row.get expr.propertyRef = row'.get expr.propertyRef) :
    expr.read d row = expr.read d row' := by
  induction expr with
  | property ref => exact h
  | lower inner ih | unaccent inner ih => rw [read, read, ih h]

/-- What an expression reads stays where values are added. -/
theorem read_mono
    (h : ∀ v, row.get expr.propertyRef = some v → row'.get expr.propertyRef = some v) :
    ∀ v, expr.read d row = some v → expr.read d row' = some v := by
  induction expr with
  | property ref => exact h
  | lower inner ih | unaccent inner ih =>
      intro v hv
      rw [read] at hv ⊢
      obtain ⟨w, hw, rfl⟩ := Option.map_eq_some_iff.mp hv
      rw [ih h w hw, Option.map_some]

/-- A test that is passed by what is read is still passed where values are added. -/
theorem any_read_mono
    (h : ∀ v, row.get expr.propertyRef = some v → row'.get expr.propertyRef = some v)
    {test : Value → Bool} (htest : (expr.read d row).any test = true) :
    (expr.read d row').any test = true := by
  rw [Option.any_eq_true] at htest ⊢
  obtain ⟨v, hv, hpass⟩ := htest
  exact ⟨v, read_mono h v hv, hpass⟩

end FieldExpr

namespace Predicate

/-- Somewhere the predicate asks for a missing value. -/
def AsksMissing (p : Predicate) : Prop := ∃ expr, isNull expr ∈ p.nodes

theorem AsksMissing.mono {p q : Predicate} (h : p.AsksMissing) (hnodes : p.nodes ⊆ q.nodes) :
    q.AsksMissing := by
  obtain ⟨expr, hexpr⟩ := h
  exact ⟨expr, hnodes hexpr⟩

variable {d : Dialect} {row row' : Row}

/-- Rows that hold the same at the references of a predicate are not told apart. -/
theorem holds_congr {p : Predicate} (h : Row.AgreeAt p.refs row row') :
    p.holds d row = p.holds d row' := by
  induction p using treeInduction with
  | and ps ih =>
      rw [holds_and, holds_and, Bool.eq_iff_iff, List.all_eq_true, List.all_eq_true]
      refine forall₂_congr fun p hp => ?_
      rw [ih p hp (h.mono (refs_mono (nodes_subset_and hp)))]
  | or ps ih =>
      rw [holds_or, holds_or, Bool.eq_iff_iff, List.any_eq_true, List.any_eq_true]
      refine exists_congr fun p => and_congr_right fun hp => ?_
      rw [ih p hp (h.mono (refs_mono (nodes_subset_or hp)))]
  | within value lower upper =>
      have hlower := h lower.propertyRef (by simp [refs, nodes, ownRefs])
      have hupper := h upper.propertyRef (by simp [refs, nodes, ownRefs])
      rw [holds, holds, FieldExpr.read_congr hlower, FieldExpr.read_congr hupper]
  | compare expr | like expr | oneOf expr | isNull expr | between expr =>
      have hexpr := h expr.propertyRef (by simp [refs, nodes, ownRefs])
      rw [holds, holds, FieldExpr.read_congr hexpr]

/-- Values that a row holds in addition lose no match, unless a missing value is
asked for. -/
theorem holds_mono {p : Predicate} (hmissing : ¬ p.AsksMissing)
    (h : Row.ExtendsAt p.refs row row') (hholds : p.holds d row = true) :
    p.holds d row' = true := by
  induction p using treeInduction with
  | and ps ih =>
      rw [holds_and, List.all_eq_true] at hholds ⊢
      intro p hp
      have hnodes := nodes_subset_and hp
      apply ih p hp
      · intro hp'
        exact hmissing (hp'.mono hnodes)
      · exact h.mono (refs_mono hnodes)
      · exact hholds p hp
  | or ps ih =>
      rw [holds_or, List.any_eq_true] at hholds ⊢
      obtain ⟨p, hp, hholds⟩ := hholds
      have hnodes := nodes_subset_or hp
      refine ⟨p, hp, ih p hp ?_ ?_ hholds⟩
      · intro hp'
        exact hmissing (hp'.mono hnodes)
      · exact h.mono (refs_mono hnodes)
  | isNull expr => exact absurd ⟨expr, List.mem_singleton_self _⟩ hmissing
  | within value lower upper =>
      have hlower := h lower.propertyRef (by simp [refs, nodes, ownRefs])
      have hupper := h upper.propertyRef (by simp [refs, nodes, ownRefs])
      rw [holds, Option.any_eq_true] at hholds ⊢
      obtain ⟨l, hl, hholds⟩ := hholds
      exact ⟨l, FieldExpr.read_mono hlower l hl, FieldExpr.any_read_mono hupper hholds⟩
  | compare expr | like expr | oneOf expr | between expr =>
      have hexpr := h expr.propertyRef (by simp [refs, nodes, ownRefs])
      rw [holds] at hholds ⊢
      exact FieldExpr.any_read_mono hexpr hholds

/-- The answer of a predicate depends on what the row holds at its references. Where
it does not ask for a missing value, it stays true whatever is added there. -/
theorem holds_of_refs (d : Dialect) (p : Predicate) (row row' : Row) :
    (Row.AgreeAt p.refs row row' → p.holds d row = p.holds d row') ∧
      (¬ p.AsksMissing → Row.ExtendsAt p.refs row row' →
        p.holds d row = true → p.holds d row' = true) := by
  constructor
  · intro h
    exact holds_congr h
  · intro hmissing h hholds
    exact holds_mono hmissing h hholds

end Predicate

/-- Called Ann in any case and thirty within two stored bounds, or a friend. -/
def Predicate.annWithin : Predicate :=
  .or [.and [.equals (.lower (.property (.navigate ["name"]))) (.text "ann"),
      .within (.int 30) (.property (.navigate ["least"])) (.property (.navigate ["most"]))],
    .oneOf (.property (.navigate ["kinds"])) [.text "friend"]]

/-- A row called Ann with bounds around thirty, and what else it holds. -/
def Row.annWithin (others : List (String × Value)) : Row := Row.ofDotted fun column =>
  (("name", .text "ANN") :: ("least", .int (-3)) :: ("most", .uint 30) :: others).lookup column

theorem Predicate.holds_of_refs_ann :
    (Row.AgreeAt annWithin.refs (.annWithin [("kinds", .null), ("age", .int 4)]) (.annWithin []) ∧
        annWithin.holds ⟨id, '%'⟩ (.annWithin [("kinds", .null), ("age", .int 4)]) =
          annWithin.holds ⟨id, '%'⟩ (.annWithin [])) ∧
      ¬ annWithin.AsksMissing ∧
      Row.ExtendsAt annWithin.refs (.annWithin []) (.annWithin [("kinds", .list [.null])]) ∧
      annWithin.holds ⟨id, '%'⟩ (.annWithin []) = true ∧
      annWithin.holds ⟨id, '%'⟩ (.annWithin [("kinds", .list [.null])]) = true := by
  have hrefs : annWithin.refs =
      [.navigate ["name"], .navigate ["least"], .navigate ["most"], .navigate ["kinds"]] := rfl
  have hagree : Row.AgreeAt annWithin.refs
      (.annWithin [("kinds", .null), ("age", .int 4)]) (.annWithin []) := by
    rw [hrefs]
    simp only [Row.AgreeAt, List.forall_mem_cons]
    exact ⟨rfl, rfl, rfl, rfl, List.forall_mem_nil _⟩
  have hmissing : ¬ annWithin.AsksMissing := by
    rintro ⟨expr, hexpr⟩
    simp [annWithin, nodes, nodesOfAll, equals] at hexpr
  have hextends : Row.ExtendsAt annWithin.refs
      (.annWithin []) (.annWithin [("kinds", .list [.null])]) := by
    have hkinds : (Row.annWithin []).get (.navigate ["kinds"]) = none := rfl
    rw [hrefs]
    simp only [Row.ExtendsAt, List.forall_mem_cons]
    refine ⟨fun _ hv => hv, fun _ hv => hv, fun _ hv => hv, ?_, List.forall_mem_nil _⟩
    simp [hkinds]
  have hholds : annWithin.holds ⟨id, '%'⟩ (.annWithin []) = true := rfl
  exact ⟨⟨hagree, (holds_of_refs ⟨id, '%'⟩ annWithin _ _).1 hagree⟩, hmissing, hextends, hholds,
    (holds_of_refs ⟨id, '%'⟩ annWithin _ _).2 hmissing hextends hholds⟩

end Criteria
