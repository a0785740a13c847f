import Criteria.Proofs.Pattern.Occurrence
import Criteria.Proofs.Predicate.Strictness
import Criteria.Proofs.Text.Lowercase
import Criteria.Text.Accent

/-!
# Searches that ignore case

A search that ignores case takes both texts in lower case and looks for the words of the
one in the other. Words that occur in a text also do so in lower case, with two
exceptions. An underscore stands for one character, but the capital I with a dot above
becomes two, which tears the word apart if the underscore is inside it. And a capital
sigma has a form of its own at the end of a word, which the query may end earlier than
the text. The main statement is `finds_likeIgnoreCase_of_occurs`: where the words can be
placed so that neither happens, nothing is lost.
-/

namespace Criteria

open Text Pattern

section Signs

variable {c : Char}

theorem isSign_of_isSeparator (h : isSeparator '%' c = true) : Unicode.isSign c = true := by
  have hranges : Unicode.isSign c = (decide (0x25 ≤ c.toNat) && decide (c.toNat ≤ 0x25) ||
      (decide (0x5F ≤ c.toNat) && decide (c.toNat ≤ 0x5F) || Unicode.isWhiteSpace c)) := rfl
  rw [isSeparator, Bool.or_eq_true, beq_iff_eq] at h
  rcases h with hblank | rfl
  · rw [hranges, hblank, Bool.or_true, Bool.or_true]
  · decide

theorem isSeparator_of_isSign_eq_false (h : Unicode.isSign c = false) :
    isSeparator '%' c = false := by
  by_contra hc
  rw [isSign_of_isSeparator (Bool.not_eq_false _ ▸ hc)] at h
  cases h

end Signs

namespace Text.Letter

/-- A letter of a query stands for a letter of a text: an underscore for any, and every
other one for the same character. -/
def StandsFor (y x : Letter) : Prop := y.char = '_' ∨ y.char = x.char

instance : DecidableRel StandsFor :=
  fun y x => inferInstanceAs (Decidable (y.char = '_' ∨ y.char = x.char))

/-- It does so in lower case as well, an underscore standing for a single character and a
sigma for one of the same form. -/
@[mk_iff]
structure KeepsCase (y x : Letter) : Prop where
  standsFor : y.StandsFor x
  single : y.char = '_' → x.char ≠ 'İ'
  sameForm : y.char = 'Σ' → y.form = x.form

instance : DecidableRel KeepsCase := fun y x => decidable_of_iff _ (keepsCase_iff y x).symm

variable {y x : Letter}

theorem form_of_underscore (h : y.char = '_') : y.form = ['_'] := by
  rw [form_of_isSign (by rw [h]; decide), h]

theorem StandsFor.form_eq (h : y.StandsFor x) (hy : y.char ≠ '_')
    (hform : y.char = 'Σ' → y.form = x.form) : y.form = x.form := by
  have hchar : y.char = x.char := h.resolve_left hy
  by_cases hsigma : y.char = 'Σ'
  · exact hform hsigma
  · rw [form_of_ne_sigma hsigma, form_of_ne_sigma (hchar ▸ hsigma), hchar]

/-- The form of the one letter takes that of the other. -/
theorem KeepsCase.forall₂_form (h : y.KeepsCase x) :
    List.Forall₂ (fun b a => b = '_' ∨ b = a) y.form x.form := by
  by_cases hy : y.char = '_'
  · obtain ⟨a, ha⟩ := exists_form_eq_singleton (h.single hy)
    rw [form_of_underscore hy, ha]
    exact .cons (Or.inl rfl) .nil
  · rw [h.standsFor.form_eq hy h.sameForm]
    exact List.forall₂_same.mpr fun _ _ => Or.inr rfl

/-- White space or a percent sign. -/
def isSeparator (l : Letter) : Bool := Pattern.isSeparator '%' l.char

end Text.Letter

namespace Text

/-- A word stands for a piece of a text in lower case as well. Its underscores at either
end may stand for anything. -/
inductive KeepsCase : List Letter → List Letter → Prop
  | intro {lead core trail piece₁ piece₂ piece₃ : List Letter}
      (hlead : List.Forall₂ (fun y _ => y.char = '_') lead piece₁)
      (hcore : List.Forall₂ Letter.KeepsCase core piece₂)
      (htrail : List.Forall₂ (fun y _ => y.char = '_') trail piece₃) :
      KeepsCase (lead ++ (core ++ trail)) (piece₁ ++ (piece₂ ++ piece₃))

/-- The words of a query, with the forms that their letters have in the whole query. -/
def letterWords (query : String) : List (List Letter) :=
  wordsBy Letter.isSeparator (letters query)

section

variable {word piece : List Letter} {text : List Char}

/-- Underscores take any text of their number. -/
theorem forall₂_underscores (h : List.Forall₂ (fun y _ => y.char = '_') word piece)
    (hlength : text.length = piece.length) :
    List.Forall₂ (fun b a => b = '_' ∨ b = a) (word.flatMap Letter.form) text := by
  induction h generalizing text with
  | nil =>
      rw [List.length_eq_zero_iff.mp hlength]
      exact .nil
  | cons hy _ ih =>
      obtain ⟨a, text, rfl⟩ := List.exists_cons_of_length_eq_add_one hlength
      rw [List.flatMap_cons, Letter.form_of_underscore hy]
      exact .cons (Or.inl rfl) (ih (Nat.succ.inj hlength))

theorem length_le_flatMap_form (piece : List Letter) :
    piece.length ≤ (piece.flatMap Letter.form).length := by
  induction piece with
  | nil => exact Nat.le_refl 0
  | cons l piece ih =>
      have hform : 0 < l.form.length := List.length_pos_of_ne_nil l.form_ne_nil
      rw [List.flatMap_cons, List.length_append, List.length_cons]
      omega

/-- In lower case the piece has a match of the word in it: underscores at the ends that
stand for a longer form leave some of it outside. -/
theorem KeepsCase.exists_match (h : KeepsCase word piece) :
    ∃ front matched behind, piece.flatMap Letter.form = front ++ (matched ++ behind) ∧
      List.Forall₂ (fun b a => b = '_' ∨ b = a) (word.flatMap Letter.form) matched := by
  obtain @⟨lead, core, trail, piece₁, piece₂, piece₃, hlead, hcore, htrail⟩ := h
  obtain ⟨front, first, hfirst, hfirstLength⟩ :
      ∃ front first, piece₁.flatMap Letter.form = front ++ first ∧
        first.length = piece₁.length := by
    have hle := length_le_flatMap_form piece₁
    refine ⟨_, _, (List.take_append_drop
      ((piece₁.flatMap Letter.form).length - piece₁.length) _).symm, ?_⟩
    rw [List.length_drop]
    omega
  obtain ⟨last, behind, hlast, hlastLength⟩ :
      ∃ last behind, piece₃.flatMap Letter.form = last ++ behind ∧
        last.length = piece₃.length :=
    ⟨_, _, (List.take_append_drop piece₃.length _).symm,
      List.length_take_of_le (length_le_flatMap_form piece₃)⟩
  refine ⟨front, first ++ (piece₂.flatMap Letter.form ++ last), behind, ?_, ?_⟩
  · simp only [List.flatMap_append, hfirst, hlast, List.append_assoc]
  · rw [List.flatMap_append, List.flatMap_append]
    have hmiddle := List.rel_flatMap hcore fun _ _ hletter => hletter.forall₂_form
    exact List.rel_append (forall₂_underscores hlead hfirstLength)
      (List.rel_append hmiddle (forall₂_underscores htrail hlastLength))

end

end Text

section

variable {query text : String}

theorem words_eq_map_char (query : String) :
    words '%' query.toList = (letterWords query).map (·.map Letter.char) := by
  rw [← map_char_letters, words_eq_wordsBy, wordsBy_map]
  rfl

/-- Lower case makes words of words. -/
theorem words_lowercase_eq_flatMap_form (query : String) :
    words '%' (lowercase query).toList = (letterWords query).map (·.flatMap Letter.form) := by
  rw [← flatMap_form_letters, words_eq_wordsBy]
  apply wordsBy_flatMap
  · intro l hl
    exact ⟨l.char, Letter.form_of_isSign (isSign_of_isSeparator hl), hl⟩
  · intro l hl x hx
    -- an underscore does not separate, but it is a sign and keeps its form
    by_cases hsign : Unicode.isSign l.char = true
    · rw [Letter.form_of_isSign hsign] at hx
      obtain rfl := List.mem_singleton.mp hx
      exact hl
    · exact isSeparator_of_isSign_eq_false
        (Letter.isSign_of_mem_form (Bool.eq_false_iff.mpr hsign) hx)
  · exact Letter.form_ne_nil

theorem accepts_ofQuery_iff_occurs : accepts '%' (ofQuery '%' query) text = true ↔
    Occurs (List.Forall₂ Letter.StandsFor) (letterWords query) (letters text) := by
  rw [accepts_ofQuery_iff_inOrder, inOrder_iff_occurs, words_eq_map_char, ← map_char_letters,
    occurs_map_iff]
  simp only [List.forall₂_map_left_iff, List.forall₂_map_right_iff]
  rfl

theorem accepts_lowercase_of_occurs
    (h : Occurs Text.KeepsCase (letterWords query) (letters text)) :
    accepts '%' (ofQuery '%' (lowercase query)) (lowercase text) = true := by
  rw [accepts_ofQuery_iff_inOrder, inOrder_iff_occurs, words_lowercase_eq_flatMap_form,
    ← flatMap_form_letters]
  exact h.flatMap fun _ _ hword => hword.exists_match

theorem char_mem_of_mem_letterWords {word : List Letter} (hword : word ∈ letterWords query)
    {y : Letter} (hy : y ∈ word) : y.char ∈ query.toList := by
  rw [← map_char_letters]
  exact List.mem_map_of_mem (mem_of_mem_wordsBy hword hy)

/-- Without a sigma in the query, and an underscore meeting the dotted capital, every word
is found in lower case where it is found. -/
theorem occurs_keepsCase (hsigma : 'Σ' ∉ query.toList)
    (hdot : '_' ∉ query.toList ∨ 'İ' ∉ text.toList)
    (h : Occurs (List.Forall₂ Letter.StandsFor) (letterWords query) (letters text)) :
    Occurs Text.KeepsCase (letterWords query) (letters text) := by
  refine h.imp_of_mem fun word hword piece hpiece hstands => ?_
  have hcore : List.Forall₂ Letter.KeepsCase word piece := by
    refine forall₂_imp_of_mem (fun y hy x hx hyx => ⟨hyx, fun hunderscore hcapital => ?_,
      fun hy' => ?_⟩) hstands
    · have hquery := char_mem_of_mem_letterWords hword hy
      have htext : x.char ∈ text.toList := by
        rw [← map_char_letters]
        exact List.mem_map_of_mem (hpiece hx)
      rw [hunderscore] at hquery
      rw [hcapital] at htext
      exact hdot.elim (absurd hquery) (absurd htext)
    · exact absurd (hy' ▸ char_mem_of_mem_letterWords hword hy) hsigma
  simpa using Text.KeepsCase.intro .nil hcore .nil

end

namespace Dialect

/-- A search finds a text where the words of the query occur in it, and the search that
ignores case finds it too if they can be placed so that no underscore inside a word stands
for a capital I with a dot above and every sigma stands for one with the same form in
lower case. That is so of every placement if the query has no sigma, and no underscore or
the text no such I. -/
theorem finds_likeIgnoreCase_of_occurs (d : Dialect) (row : Row) (expr : FieldExpr)
    (query text : String) (hwildcard : d.wildcard = '%')
    (hread : expr.read d row = some (.text text)) :
    (d.Finds row expr query .like ↔
      Occurs (List.Forall₂ Letter.StandsFor) (letterWords query) (letters text)) ∧
    (Occurs Text.KeepsCase (letterWords query) (letters text) →
      d.Finds row expr query .likeIgnoreCase) ∧
    (d.Finds row expr query .like → 'Σ' ∉ query.toList →
      '_' ∉ query.toList ∨ 'İ' ∉ text.toList → d.Finds row expr query .likeIgnoreCase) := by
  have hfinds (op : Operation) :
      d.Finds row expr query op ↔ d.textMeets op query text = true := by
    rw [finds_iff]
    constructor
    · rintro ⟨stored, hstored, hmeets⟩
      cases hread.symm.trans hstored
      exact hmeets
    · exact fun hmeets => ⟨text, hread, hmeets⟩
  have hlike : d.Finds row expr query .like ↔
      Occurs (List.Forall₂ Letter.StandsFor) (letterWords query) (letters text) := by
    rw [hfinds, textMeets, hwildcard, accepts_ofQuery_iff_occurs]
  have hignoreCase (h : Occurs Text.KeepsCase (letterWords query) (letters text)) :
      d.Finds row expr query .likeIgnoreCase := by
    rw [hfinds, textMeets, hwildcard]
    exact accepts_lowercase_of_occurs h
  refine ⟨hlike, hignoreCase, ?_⟩
  intro h hsigma hdot
  exact hignoreCase (occurs_keepsCase hsigma hdot (hlike.mp h))

/-- Both words hold what needs care: a sigma at the end of a word here and there, and an
underscore for the dotted capital. -/
theorem finds_likeIgnoreCase_of_occurs_odos :
    let d : Dialect := ⟨id, '%'⟩
    let row : Row := fun _ => some (.text "ΟΔΟΣ bİ")
    let expr : FieldExpr := .property ⟨[], ["name"]⟩
    d.Finds row expr "ΔΟΣ b_" .likeIgnoreCase ∧ d.Finds row expr "ΔΟ b" .likeIgnoreCase := by
  intro d row expr
  have hread : expr.read d row = some (.text "ΟΔΟΣ bİ") := rfl
  let words := letters "ΔΟΣ b_"
  let text := letters "ΟΔΟΣ bİ"
  have hcity : List.Forall₂ Letter.KeepsCase (words.take 3) ((text.drop 1).take 3) := by
    decide +kernel
  have hletter : List.Forall₂ Letter.KeepsCase ((words.drop 4).take 1) ((text.drop 5).take 1) := by
    decide +kernel
  have hdot : List.Forall₂ (fun y _ => y.char = '_') (words.drop 5) (text.drop 6) := by
    decide +kernel
  have hwords : letterWords "ΔΟΣ b_" =
      [[] ++ (words.take 3 ++ []), [] ++ ((words.drop 4).take 1 ++ words.drop 5)] := rfl
  have htext : text = text.take 1 ++ ([] ++ ((text.drop 1).take 3 ++ []) ++
      ((text.drop 4).take 1 ++ ([] ++ ((text.drop 5).take 1 ++ text.drop 6) ++ []))) := rfl
  have hoccurs : Occurs Text.KeepsCase (letterWords "ΔΟΣ b_") text := by
    rw [hwords, htext]
    exact .cons _ (.intro .nil hcity .nil) (.cons _ (.intro .nil hletter hdot) (.nil []))
  obtain ⟨-, hsearch, -⟩ :=
    d.finds_likeIgnoreCase_of_occurs row expr "ΔΟΣ b_" "ΟΔΟΣ bİ" rfl hread
  obtain ⟨-, -, hplain⟩ :=
    d.finds_likeIgnoreCase_of_occurs row expr "ΔΟ b" "ΟΔΟΣ bİ" rfl hread
  have hlike : d.Finds row expr "ΔΟ b" .like :=
    finds_iff.mpr ⟨"ΟΔΟΣ bİ", hread, by decide +kernel⟩
  exact ⟨hsearch hoccurs, hplain hlike (by decide) (Or.inl (by decide))⟩

/-- A sigma alone is no end of a word, the one of the text is; and the dotted capital is
too long for an underscore inside a word. -/
theorem finds_like_not_finds_likeIgnoreCase :
    let d : Dialect := ⟨id, '%'⟩
    let expr : FieldExpr := .property ⟨[], ["name"]⟩
    let row (text : String) : Row := fun _ => some (.text text)
    (d.Finds (row "ΑΣ") expr "Σ" .like ∧ ¬ d.Finds (row "ΑΣ") expr "Σ" .likeIgnoreCase) ∧
      (d.Finds (row "aİb") expr "a_b" .like ∧
        ¬ d.Finds (row "aİb") expr "a_b" .likeIgnoreCase) := by
  intro d expr row
  unfold Finds
  decide +kernel

end Dialect

end Criteria
