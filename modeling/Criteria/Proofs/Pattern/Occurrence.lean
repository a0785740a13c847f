import Criteria.Proofs.Pattern.Words

/-!
# Words that occur in a text

Words occur in a text where pieces of it match them, one behind the other and whatever
lies between. Characters may carry more than themselves here. Both sides may be
rewritten: where what becomes of a piece still holds a match of what becomes of its word,
the words still occur (`Occurs.flatMap`), and a rewriting that keeps the separators goes
word by word (`wordsBy_flatMap`).
-/

namespace Criteria.Pattern

section

variable {α β γ δ : Type}

/-- The words have matching pieces in the text, in their order and without overlapping. -/
inductive Occurs (M : List α → List β → Prop) : List (List α) → List β → Prop
  | nil (text : List β) : Occurs M [] text
  | cons {word : List α} {piece rest : List β} {words : List (List α)} (front : List β)
      (hword : M word piece) (hwords : Occurs M words rest) :
      Occurs M (word :: words) (front ++ (piece ++ rest))

theorem inOrder_iff_occurs {ws : List (List Char)} {text : List Char} :
    InOrder ws text ↔ Occurs (List.Forall₂ fun y x => y = '_' ∨ y = x) ws text := by
  constructor
  · intro h
    induction ws generalizing text with
    | nil => exact .nil text
    | cons word ws ih =>
        obtain ⟨k, piece, rest, hdrop, hword, hrest⟩ := inOrder_cons_iff.mp h
        rw [← List.take_append_drop k text, hdrop]
        exact .cons _ hword (ih hrest)
  · intro h
    induction h with
    | nil text => exact inOrder_nil text
    | cons front hword _ ih =>
        exact inOrder_cons_iff.mpr ⟨front.length, _, _, List.drop_left, hword, ih⟩

variable {M M' : List α → List β → Prop} {S : List γ → List δ → Prop} {word : List α}
  {ws : List (List α)} {text : List β}

theorem occurs_cons_iff : Occurs M (word :: ws) text ↔
    ∃ front piece rest, text = front ++ (piece ++ rest) ∧ M word piece ∧ Occurs M ws rest := by
  constructor
  · rintro (_ | ⟨front, hword, hwords⟩)
    exact ⟨front, _, _, rfl, hword, hwords⟩
  · rintro ⟨front, piece, rest, rfl, hword, hwords⟩
    exact .cons front hword hwords

theorem Occurs.append_left (more : List β) (h : Occurs M ws text) :
    Occurs M ws (more ++ text) := by
  cases h with
  | nil => exact .nil _
  | cons front hword hwords =>
      rw [← List.append_assoc]
      exact .cons _ hword hwords

/-- Words occur as what their characters are replaced by, as long as the replaced piece
has a match of the replaced word in it. -/
theorem Occurs.flatMap {f : α → List γ} {g : β → List δ}
    (hreplace : ∀ word piece, M word piece → ∃ front matched behind,
      piece.flatMap g = front ++ (matched ++ behind) ∧ S (word.flatMap f) matched)
    (h : Occurs M ws text) : Occurs S (ws.map (·.flatMap f)) (text.flatMap g) := by
  induction h with
  | nil text => exact .nil _
  | @cons word piece rest _ skipped hword _ ih =>
      obtain ⟨front, matched, behind, hpiece, hmatched⟩ := hreplace word piece hword
      rw [List.map_cons, occurs_cons_iff]
      refine ⟨skipped.flatMap g ++ front, matched, behind ++ rest.flatMap g, ?_, hmatched,
        ih.append_left behind⟩
      rw [List.flatMap_append, List.flatMap_append, hpiece]
      simp only [List.append_assoc]

/-- Where characters are read for something else, it is this that occurs. -/
theorem occurs_map_iff {f : α → γ} {g : β → δ} : Occurs S (ws.map (·.map f)) (text.map g) ↔
    Occurs (fun word piece => S (word.map f) (piece.map g)) ws text := by
  induction ws generalizing text with
  | nil => exact iff_of_true (.nil _) (.nil _)
  | cons word ws ih =>
      rw [List.map_cons, occurs_cons_iff, occurs_cons_iff]
      constructor
      · rintro ⟨front, piece, rest, htext, hword, hwords⟩
        obtain ⟨front, behind, rfl, -, hbehind⟩ := List.map_eq_append_iff.mp htext
        obtain ⟨piece, rest, rfl, rfl, rfl⟩ := List.map_eq_append_iff.mp hbehind
        exact ⟨front, piece, rest, rfl, hword, ih.mp hwords⟩
      · rintro ⟨front, piece, rest, rfl, hword, hwords⟩
        exact ⟨front.map g, piece.map g, rest.map g, by simp, hword, ih.mpr hwords⟩

theorem forall₂_imp_of_mem {R R' : α → β → Prop} {piece : List β}
    (himp : ∀ y ∈ word, ∀ x ∈ piece, R y x → R' y x) (h : List.Forall₂ R word piece) :
    List.Forall₂ R' word piece := by
  induction h with
  | nil => exact .nil
  | cons hyx _ ih =>
      refine .cons (himp _ List.mem_cons_self _ List.mem_cons_self hyx) (ih ?_)
      intro y hy x hx
      exact himp y (List.mem_cons_of_mem _ hy) x (List.mem_cons_of_mem _ hx)

/-- The one match has to go over to the other for these words and pieces of this text
only. -/
theorem Occurs.imp_of_mem
    (himp : ∀ word ∈ ws, ∀ piece, piece ⊆ text → M word piece → M' word piece)
    (h : Occurs M ws text) : Occurs M' ws text := by
  induction h with
  | nil text => exact .nil text
  | @cons word piece rest words front hword _ ih =>
      refine .cons front (himp word List.mem_cons_self piece ?_ hword) (ih ?_)
      · intro x hx
        exact List.mem_append_right _ (List.mem_append_left _ hx)
      · intro word hmem piece hpiece
        refine himp word (List.mem_cons_of_mem _ hmem) piece fun x hx => ?_
        exact List.mem_append_right _ (List.mem_append_right _ (hpiece hx))

end

section Separators

variable {α γ : Type} {isSeparator : α → Bool} {text piece : List α}

/-- The pieces between separators, empty ones left out. -/
def wordsBy (isSeparator : α → Bool) (text : List α) : List (List α) :=
  (text.splitOnP isSeparator).filter fun piece => !piece.isEmpty

theorem words_eq_wordsBy (wildcard : Char) (query : List Char) :
    words wildcard query = wordsBy (Pattern.isSeparator wildcard) query := rfl

theorem mem_of_mem_splitOnP {x : α} (hpiece : piece ∈ text.splitOnP isSeparator)
    (hx : x ∈ piece) : x ∈ text := by
  induction text generalizing piece with
  | nil =>
      rw [List.splitOnP_nil] at hpiece
      rwa [List.mem_singleton.mp hpiece] at hx
  | cons y text ih =>
      obtain ⟨first, others, hsplit⟩ :=
        List.exists_cons_of_ne_nil (List.splitOnP_ne_nil isSeparator text)
      rw [List.splitOnP_cons_eq_if_modifyHead, hsplit] at hpiece
      rw [hsplit] at ih
      split at hpiece
      · rcases List.mem_cons.mp hpiece with rfl | hpiece
        · cases hx
        · exact List.mem_cons_of_mem y (ih hpiece hx)
      · rw [List.modifyHead_cons] at hpiece
        rcases List.mem_cons.mp hpiece with rfl | hpiece
        · rcases List.mem_cons.mp hx with rfl | hx
          · exact List.mem_cons_self
          · exact List.mem_cons_of_mem y (ih List.mem_cons_self hx)
        · exact List.mem_cons_of_mem y (ih (List.mem_cons_of_mem first hpiece) hx)

theorem mem_of_mem_wordsBy {x : α} (hpiece : piece ∈ wordsBy isSeparator text)
    (hx : x ∈ piece) : x ∈ text :=
  mem_of_mem_splitOnP (List.mem_filter.mp hpiece).1 hx

/-- Characters that do not separate go in front of the first piece. -/
theorem splitOnP_append_of_forall (h : ∀ x ∈ piece, isSeparator x = false) :
    (piece ++ text).splitOnP isSeparator =
      (text.splitOnP isSeparator).modifyHead (piece ++ ·) := by
  induction piece with
  | nil =>
      rw [List.nil_append]
      cases text.splitOnP isSeparator <;> rfl
  | cons x piece ih =>
      obtain ⟨hx, hpiece⟩ := List.forall_mem_cons.mp h
      rw [List.cons_append, List.splitOnP_cons_eq_if_modifyHead, hx, if_neg Bool.false_ne_true,
        ih hpiece, List.modifyHead_modifyHead]
      rfl

variable {f : α → List γ} {isSeparator' : γ → Bool}

theorem splitOnP_flatMap
    (hseparator : ∀ x, isSeparator x = true → ∃ y, f x = [y] ∧ isSeparator' y = true)
    (hother : ∀ x, isSeparator x = false → ∀ y ∈ f x, isSeparator' y = false) (text : List α) :
    (text.flatMap f).splitOnP isSeparator' = (text.splitOnP isSeparator).map (·.flatMap f) := by
  induction text with
  | nil => simp
  | cons x text ih =>
      rw [List.flatMap_cons, List.splitOnP_cons_eq_if_modifyHead]
      cases hx : isSeparator x with
      | true =>
          obtain ⟨y, hy, hseparates⟩ := hseparator x hx
          rw [hy, List.singleton_append, List.splitOnP_cons_eq_if_modifyHead, if_pos hseparates,
            ih, if_pos rfl, List.map_cons]
          rfl
      | false =>
          rw [splitOnP_append_of_forall (hother x hx), ih, if_neg Bool.false_ne_true]
          cases text.splitOnP isSeparator <;> rfl

/-- A rewriting that keeps the separators and drops no character rewrites every word. -/
theorem wordsBy_flatMap
    (hseparator : ∀ x, isSeparator x = true → ∃ y, f x = [y] ∧ isSeparator' y = true)
    (hother : ∀ x, isSeparator x = false → ∀ y ∈ f x, isSeparator' y = false)
    (hne : ∀ x, f x ≠ []) (text : List α) :
    wordsBy isSeparator' (text.flatMap f) = (wordsBy isSeparator text).map (·.flatMap f) := by
  have hempty : (fun piece : List γ => !piece.isEmpty) ∘ (·.flatMap f) =
      fun piece : List α => !piece.isEmpty := by
    funext piece
    cases piece with
    | nil => rfl
    | cons x piece => simp [hne]
  rw [wordsBy, wordsBy, splitOnP_flatMap hseparator hother, List.filter_map, hempty]

theorem wordsBy_map {f : α → γ} (text : List α) :
    wordsBy isSeparator' (text.map f) =
      (wordsBy (fun x => isSeparator' (f x)) text).map (·.map f) := by
  have hflatMap : wordsBy isSeparator' (text.flatMap fun x => [f x]) =
      (wordsBy (fun x => isSeparator' (f x)) text).map (·.flatMap fun x => [f x]) := by
    apply wordsBy_flatMap
    · exact fun x hx => ⟨f x, rfl, hx⟩
    · intro x hx y hy
      rwa [List.mem_singleton.mp hy]
    · exact fun x => List.cons_ne_nil (f x) []
  simpa only [← List.map_eq_flatMap] using hflatMap

end Separators

end Criteria.Pattern
