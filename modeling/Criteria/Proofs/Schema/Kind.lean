import Criteria.Proofs.Text.Quoted
import Criteria.Schema.Model

/-!
# Kinds that are the same

Kinds are compared and described by rules of their own. The comparison takes lists
apart, compares the names of nested entities, and for everything else looks only at
how the two kinds are built; the description is a text. Yet they tell the same kinds
apart (`sameKind_iff_describeKind_eq`): the first letters of a description show how
the kind is built, and what follows can be read back. So sameness has the laws of an
equality, and it depends on nothing in a schema but names (`equivalence_sameKind`).
-/

namespace Criteria

namespace PropertyKind

variable {ι : Type}

/-- The entity that a kind leads to, in a list of any depth as well. -/
def target? : PropertyKind ι → Option ι
  | list element => element.target?
  | embedded target | relation target => some target
  | _ => none

/-- Kinds that are built alike are equal, unless there is something inside of them. -/
theorem eq_of_ctorIdx_eq {a b : PropertyKind ι} (h : a.ctorIdx = b.ctorIdx)
    (hlist : ∀ c d, a = list c → b = list d → False)
    (hembedded : ∀ i j, a = embedded i → b = embedded j → False)
    (hrelation : ∀ i j, a = relation i → b = relation j → False) : a = b := by
  cases a <;> cases b <;> simp_all [PropertyKind.ctorIdx]

end PropertyKind

namespace Schema

variable {ι : Type} {S T : Schema ι} {a b k : PropertyKind ι}

/-- What the descriptions of kinds begin with, in the order of the kinds. -/
def openings : List String := ["Te", "In", "Ui", "Fl", "Bo", "Da", "Ti", "En", "Li", "Em", "Re"]

theorem opening_describeKind (S : Schema ι) (k : PropertyKind ι) :
    openings[k.ctorIdx]? = some (String.ofList ((S.describeKind k).toList.take 2)) := by
  cases k <;> simp [openings, PropertyKind.ctorIdx, describeKind]

/-- How a kind is built can be read off its description. -/
theorem ctorIdx_eq_of_describeKind_eq (h : S.describeKind a = S.describeKind b) :
    a.ctorIdx = b.ctorIdx := by
  have hopening : openings[a.ctorIdx]? = openings[b.ctorIdx]? := by
    rw [S.opening_describeKind a, S.opening_describeKind b, h]
  obtain ⟨hlt, -⟩ := List.getElem?_eq_some_iff.mp (S.opening_describeKind a)
  exact (List.getElem?_inj hlt (by decide)).mp hopening

theorem sameKind_iff_describeKind_eq (S : Schema ι) (a b : PropertyKind ι) :
    S.sameKind a b = true ↔ S.describeKind a = S.describeKind b := by
  fun_induction S.sameKind a b with
  | case1 a b ih =>
      rw [ih, describeKind, describeKind, String.append_left_inj, String.append_right_inj]
  | case2 i j | case3 i j =>
      rw [beq_iff_eq, describeKind, describeKind, String.append_left_inj, String.append_right_inj,
        Text.quoted_injective.eq_iff]
  | case4 a b hlist hembedded hrelation =>
      rw [beq_iff_eq]
      constructor
      · intro h
        rw [PropertyKind.eq_of_ctorIdx_eq h hlist hembedded hrelation]
      · exact ctorIdx_eq_of_describeKind_eq

/-- A description depends on the name of the entity that the kind leads to. -/
theorem describeKind_congr (h : ∀ i ∈ k.target?, S.nameOf i = T.nameOf i) :
    S.describeKind k = T.describeKind k := by
  induction k with
  | list element ih => rw [describeKind, describeKind, ih h]
  | embedded i | relation i => rw [describeKind, describeKind, h i rfl]
  | _ => rfl

/-- Sameness of kinds is an equivalence, and the same kinds are those that are described
alike. Of the nested entities only the two that the kinds lead to are asked, for their
names and not for their properties, in which a schema may go round in circles. -/
theorem equivalence_sameKind (S : Schema ι) :
    Equivalence (fun a b => S.sameKind a b = true) ∧
    (∀ a b, S.sameKind a b = true ↔ S.describeKind a = S.describeKind b) ∧
    ∀ (T : Schema ι) (a b : PropertyKind ι), (∀ i ∈ a.target?, S.nameOf i = T.nameOf i) →
      (∀ i ∈ b.target?, S.nameOf i = T.nameOf i) → S.sameKind a b = T.sameKind a b := by
  refine ⟨⟨?_, ?_, ?_⟩, S.sameKind_iff_describeKind_eq, ?_⟩
  · intro a
    rw [sameKind_iff_describeKind_eq]
  · intro a b
    rw [sameKind_iff_describeKind_eq, sameKind_iff_describeKind_eq]
    exact Eq.symm
  · intro a b c
    rw [sameKind_iff_describeKind_eq, sameKind_iff_describeKind_eq, sameKind_iff_describeKind_eq]
    exact Eq.trans
  · intro T a b ha hb
    rw [Bool.eq_iff_iff, sameKind_iff_describeKind_eq, sameKind_iff_describeKind_eq,
      describeKind_congr ha, describeKind_congr hb]

/-- Two entities of one name that lead to each other. -/
def circle : Schema Bool := ⟨fun i => ⟨"Node", [⟨"next", .relation (!i)⟩]⟩⟩

/-- Entities of the same name with no properties. -/
def points : Schema Bool := ⟨fun _ => ⟨"Node", []⟩⟩

theorem equivalence_sameKind_circle :
    (∀ i, circle.nameOf i = points.nameOf i) ∧
    circle.sameKind (.list (.relation true)) (.list (.relation false)) = true ∧
    circle.sameKind (.list (.relation true)) (.list (.relation false)) =
      points.sameKind (.list (.relation true)) (.list (.relation false)) := by
  obtain ⟨-, hdescribe, hnames⟩ := equivalence_sameKind circle
  have hname : ∀ i, circle.nameOf i = points.nameOf i := fun _ => rfl
  refine ⟨hname, ?_, ?_⟩
  · exact (hdescribe _ _).mpr rfl
  · exact hnames points _ _ (fun i _ => hname i) (fun i _ => hname i)

end Schema

end Criteria
