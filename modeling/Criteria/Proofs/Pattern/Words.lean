import Criteria.Proofs.Pattern.Match
import Mathlib.Data.List.SplitBy

/-!
# Patterns of queries

The pattern of a query has a wildcard in front, one behind, and one for every maximal
run of white space (`collapse_eq_flatMap_runs`). It finds the texts in which the words
of the query occur in their order without overlapping, whatever stands around them
(`matches_collapse_iff`). Words are the pieces between white space and wildcards, for a
wildcard in the query separates as white space does; a `_` in a word stands for any one
character.
-/

namespace Criteria.Pattern

/-- Both characters are white space, or neither is. -/
def sameKind (a b : Char) : Bool := Unicode.isWhiteSpace a == Unicode.isWhiteSpace b

/-- The maximal runs of a text that are white space throughout or hold none. -/
def runs (cs : List Char) : List (List Char) := cs.splitBy sameKind

/-- What a run becomes in a pattern: white space one wildcard, all else itself. -/
def squeeze (wildcard : Char) (run : List Char) : List Char :=
  if run.all Unicode.isWhiteSpace then [wildcard] else run

section Runs

variable {wildcard : Char} {run cs : List Char}

/-- Further white space adds nothing. -/
theorem collapse_true_append (h : ∀ c ∈ run, Unicode.isWhiteSpace c = true) :
    collapse wildcard true (run ++ cs) = collapse wildcard true cs := by
  induction run with
  | nil => rfl
  | cons c run ih =>
      obtain ⟨hc, hrun⟩ := List.forall_mem_cons.mp h
      rw [List.cons_append, collapse, if_pos hc, if_pos rfl, ih hrun]

/-- Before anything that is no white space it does not matter what came earlier. -/
theorem collapse_true_eq_collapse_false (h : ∀ c ∈ cs.head?, Unicode.isWhiteSpace c = false) :
    collapse wildcard true cs = collapse wildcard false cs := by
  cases cs with
  | nil => rfl
  | cons c cs =>
      have hc : ¬ Unicode.isWhiteSpace c = true := by simpa using h c rfl
      rw [collapse, collapse, if_neg hc, if_neg hc]

/-- A run of white space becomes one wildcard. -/
theorem collapse_append_of_blank (hne : run ≠ [])
    (h : ∀ c ∈ run, Unicode.isWhiteSpace c = true)
    (hnext : ∀ c ∈ cs.head?, Unicode.isWhiteSpace c = false) :
    collapse wildcard false (run ++ cs) = wildcard :: collapse wildcard false cs := by
  cases run with
  | nil => exact absurd rfl hne
  | cons c run =>
      obtain ⟨hc, hrun⟩ := List.forall_mem_cons.mp h
      rw [List.cons_append, collapse, if_pos hc, if_neg Bool.false_ne_true,
        collapse_true_append hrun, collapse_true_eq_collapse_false hnext]

/-- A run without white space stays as it is. -/
theorem collapse_append_of_solid (h : ∀ c ∈ run, Unicode.isWhiteSpace c = false) :
    collapse wildcard false (run ++ cs) = run ++ collapse wildcard false cs := by
  induction run with
  | nil => rfl
  | cons c run ih =>
      obtain ⟨hc, hrun⟩ := List.forall_mem_cons.mp h
      rw [List.cons_append, collapse, if_neg (by simp [hc]), ih hrun, List.cons_append]

/-- All characters of a run are of one kind. -/
theorem isWhiteSpace_eq_of_mem_run {c : Char}
    (h : (c :: run).IsChain fun a b => sameKind a b) :
    ∀ x ∈ c :: run, Unicode.isWhiteSpace x = Unicode.isWhiteSpace c := by
  induction run generalizing c with
  | nil => simp
  | cons d run ih =>
      obtain ⟨hcd, hrun⟩ := List.isChain_cons_cons.mp h
      have hd : Unicode.isWhiteSpace c = Unicode.isWhiteSpace d := by simpa [sameKind] using hcd
      intro x hx
      rcases List.mem_cons.mp hx with rfl | hx
      · rfl
      · rw [ih hrun x hx, hd]

/-- What follows a run begins with a character of the other kind. -/
theorem isWhiteSpace_head_flatten {c : Char} {rest : List (List Char)}
    (hkind : ∀ x ∈ c :: run, Unicode.isWhiteSpace x = Unicode.isWhiteSpace c)
    (hchange : ((c :: run) :: rest).IsChain fun a b =>
      ∃ ha hb, sameKind (a.getLast ha) (b.head hb) = false) :
    ∀ x ∈ rest.flatten.head?, Unicode.isWhiteSpace x = !Unicode.isWhiteSpace c := by
  cases rest with
  | nil => simp
  | cons next rest =>
      obtain ⟨⟨hlast, hhead, hdiffer⟩, -⟩ := List.isChain_cons_cons.mp hchange
      cases next with
      | nil => exact absurd rfl hhead
      | cons d next =>
          rintro x hx
          obtain rfl : d = x := Option.some.inj hx
          rw [sameKind, hkind _ (List.getLast_mem hlast), List.head_cons,
            beq_eq_false_iff_ne] at hdiffer
          exact Bool.eq_not.mpr (Ne.symm hdiffer)

/-- A text that is put together from its runs is squeezed run by run. -/
theorem collapse_flatten {rs : List (List Char)} (hne : [] ∉ rs)
    (hruns : ∀ r ∈ rs, r.IsChain fun a b => sameKind a b)
    (hchange : rs.IsChain fun a b => ∃ ha hb, sameKind (a.getLast ha) (b.head hb) = false) :
    collapse wildcard false rs.flatten = rs.flatMap (squeeze wildcard) := by
  induction rs with
  | nil => rfl
  | cons r rs ih =>
      rw [List.mem_cons, not_or] at hne
      obtain ⟨hr, hrs⟩ := List.forall_mem_cons.mp hruns
      have hrest := ih hne.2 hrs hchange.tail
      cases r with
      | nil => exact absurd rfl hne.1
      | cons c run =>
          have hkind := isWhiteSpace_eq_of_mem_run hr
          have hnext := isWhiteSpace_head_flatten hkind hchange
          rw [List.flatten_cons, List.flatMap_cons]
          cases hc : Unicode.isWhiteSpace c with
          | true =>
              rw [hc] at hkind hnext
              have hall : (c :: run).all Unicode.isWhiteSpace = true := List.all_eq_true.mpr hkind
              rw [collapse_append_of_blank (List.cons_ne_nil c run) hkind hnext, hrest, squeeze,
                if_pos hall]
              rfl
          | false =>
              rw [hc] at hkind
              have hall : ¬ (c :: run).all Unicode.isWhiteSpace = true := by simp [hc]
              rw [collapse_append_of_solid hkind, hrest, squeeze, if_neg hall]

/-- Every maximal run of white space becomes one wildcard, and nothing else changes. -/
theorem collapse_eq_flatMap_runs (wildcard : Char) (cs : List Char) :
    collapse wildcard false cs = (runs cs).flatMap (squeeze wildcard) := by
  calc collapse wildcard false cs = collapse wildcard false (runs cs).flatten := by
        rw [runs, List.flatten_splitBy]
    _ = (runs cs).flatMap (squeeze wildcard) := by
        apply collapse_flatten
        · exact List.nil_notMem_splitBy _ cs
        · exact fun r hr => List.isChain_of_mem_splitBy hr
        · exact List.isChain_getLast_head_splitBy sameKind cs

end Runs

/-- A character that separates the words of a query. -/
def isSeparator (wildcard c : Char) : Bool := Unicode.isWhiteSpace c || c == wildcard

/-- The words of a query: its pieces between the separators, empty ones left out. -/
def words (wildcard : Char) (query : List Char) : List (List Char) :=
  (query.splitOnP (isSeparator wildcard)).filter fun piece => !piece.isEmpty

/-- A piece of text is as long as the word and agrees with it, `_` with any
character. -/
def Fits (word piece : List Char) : Prop :=
  List.Forall₂ (fun y x => y = '_' ∨ y = x) word piece

/-- Pieces that fit the words stand in the text one after the other. Each hit is such a
piece with what lies between it and the next one. -/
def InOrder (words : List (List Char)) (text : List Char) : Prop :=
  ∃ (front : List Char) (hits : List (List Char × List Char)),
    List.Forall₂ (fun word hit => Fits word hit.1) words hits ∧
      text = front ++ hits.flatMap fun hit => hit.1 ++ hit.2

section Words

variable {wildcard : Char} {word pattern text : List Char}

theorem words_of_forall (h : ∀ c ∈ word, isSeparator wildcard c = false) :
    words wildcard word = [word].filter fun piece => !piece.isEmpty := by
  rw [words, List.splitOnP_eq_singleton h]

/-- A separator ends the word in front of it. -/
theorem words_append_cons (h : ∀ c ∈ word, isSeparator wildcard c = false) {c : Char}
    (hc : isSeparator wildcard c = true) (query : List Char) :
    words wildcard (word ++ c :: query) =
      ([word].filter fun piece => !piece.isEmpty) ++ words wildcard query := by
  rw [words, List.splitOnP_append_cons_of_forall_mem h c hc, words, ← List.filter_append]
  rfl

theorem inOrder_nil (text : List Char) : InOrder [] text :=
  ⟨text, [], .nil, by simp⟩

/-- The first word fits somewhere, and the others occur behind it. -/
theorem inOrder_cons_iff {ws : List (List Char)} :
    InOrder (word :: ws) text ↔
      ∃ k piece rest, text.drop k = piece ++ rest ∧ Fits word piece ∧ InOrder ws rest := by
  constructor
  · rintro ⟨front, hits, hfits, rfl⟩
    obtain ⟨⟨piece, gap⟩, hits, hpiece, hhits, rfl⟩ := List.forall₂_cons_left_iff.mp hfits
    refine ⟨front.length, piece, gap ++ hits.flatMap fun hit => hit.1 ++ hit.2, ?_, hpiece,
      gap, hits, hhits, rfl⟩
    rw [List.drop_left, List.flatMap_cons, List.append_assoc]
  · rintro ⟨k, piece, rest, hdrop, hpiece, gap, hits, hhits, rfl⟩
    refine ⟨text.take k, (piece, gap) :: hits, .cons hpiece hhits, ?_⟩
    rw [List.flatMap_cons, List.append_assoc, ← hdrop, List.take_append_drop]

/-- A word in a pattern takes a piece of the text that fits it. -/
theorem matches_append_iff (h : wildcard ∉ word) :
    Matches wildcard (word ++ pattern) text ↔
      ∃ piece rest, text = piece ++ rest ∧ Fits word piece ∧ Matches wildcard pattern rest := by
  induction word generalizing text with
  | nil =>
      constructor
      · intro hmatches
        exact ⟨[], text, rfl, .nil, hmatches⟩
      · rintro ⟨piece, rest, rfl, hpiece, hmatches⟩
        obtain rfl := List.forall₂_nil_left_iff.mp hpiece
        exact hmatches
  | cons y word ih =>
      rw [List.mem_cons, not_or] at h
      obtain ⟨hy, hword⟩ := h
      cases text with
      | nil =>
          constructor
          · intro hmatches
            exact absurd hmatches (not_matches_cons_nil (Ne.symm hy))
          · rintro ⟨piece, rest, htext, hpiece, -⟩
            obtain ⟨rfl, -⟩ := List.nil_eq_append_iff.mp htext
            cases hpiece
      | cons x text =>
          rw [List.cons_append, matches_cons_cons_iff (Ne.symm hy), ih hword]
          constructor
          · rintro ⟨hxy, piece, rest, rfl, hpiece, hmatches⟩
            exact ⟨x :: piece, rest, rfl, .cons hxy hpiece, hmatches⟩
          · rintro ⟨piece, rest, htext, hpiece, hmatches⟩
            obtain ⟨z, tail, hxy, htail, rfl⟩ := List.forall₂_cons_left_iff.mp hpiece
            obtain ⟨rfl, rfl⟩ := List.cons.inj htext
            exact ⟨hxy, tail, rest, rfl, htail, hmatches⟩

/-- A second wildcard stands for nothing that the first one could not. -/
theorem matches_wildcard_wildcard_iff :
    Matches wildcard (wildcard :: wildcard :: pattern) text ↔
      Matches wildcard (wildcard :: pattern) text := by
  constructor
  · intro h
    obtain ⟨k, h⟩ := matches_wildcard_iff.mp h
    obtain ⟨j, -, h⟩ := matches_wildcard_drop_iff.mp h
    exact matches_wildcard_iff.mpr ⟨j, h⟩
  · intro h
    exact matches_wildcard_iff.mpr ⟨0, h⟩

theorem matches_singleton_wildcard (text : List Char) : Matches wildcard [wildcard] text :=
  matches_wildcard_iff.mpr ⟨text.length, by rw [List.drop_length]; exact .nil⟩

/-- A word between wildcards is looked for in front of what the rest of the pattern
finds. -/
theorem matches_word_iff {ws : List (List Char)} (hword : wildcard ∉ word)
    (hrest : ∀ text, Matches wildcard (wildcard :: pattern) text ↔ InOrder ws text) :
    Matches wildcard (wildcard :: (word ++ wildcard :: pattern)) text ↔
      InOrder (([word].filter fun piece => !piece.isEmpty) ++ ws) text := by
  cases word with
  | nil => exact matches_wildcard_wildcard_iff.trans (hrest text)
  | cons y word =>
      change _ ↔ InOrder ((y :: word) :: ws) text
      simp only [matches_wildcard_iff, matches_append_iff hword, hrest, inOrder_cons_iff]

theorem not_mem_of_forall_isSeparator (h : ∀ c ∈ word, isSeparator wildcard c = false) :
    wildcard ∉ word := by
  intro hmem
  have hwildcard := h wildcard hmem
  simp [isSeparator] at hwildcard

/-- A separator becomes a wildcard, unless it goes on with white space. -/
theorem collapse_cons_of_isSeparator {c : Char} (hc : isSeparator wildcard c = true)
    (inBlank : Bool) (query : List Char) :
    (∃ b, collapse wildcard inBlank (c :: query) = wildcard :: collapse wildcard b query) ∨
      inBlank = true ∧ collapse wildcard inBlank (c :: query) = collapse wildcard true query := by
  rw [collapse]
  by_cases hblank : Unicode.isWhiteSpace c = true
  · rw [if_pos hblank]
    cases inBlank with
    | true => exact Or.inr ⟨rfl, rfl⟩
    | false => exact Or.inl ⟨true, rfl⟩
  · have hcw : c = wildcard := by simpa [isSeparator, hblank] using hc
    rw [if_neg hblank, hcw]
    exact Or.inl ⟨false, rfl⟩

/-- Any other character goes on with its word. -/
theorem collapse_cons_of_not_isSeparator {c : Char} (hc : isSeparator wildcard c = false)
    (inBlank : Bool) (query : List Char) :
    collapse wildcard inBlank (c :: query) = c :: collapse wildcard false query := by
  have hblank : ¬ Unicode.isWhiteSpace c = true := by
    simp only [isSeparator, Bool.or_eq_false_iff] at hc
    simp [hc.1]
  rw [collapse, if_neg hblank]

/-- A pattern looks for the words of its query. The induction goes along the query with
the word that has been begun. No word has where white space is being passed. -/
theorem matches_collapse_iff (hword : ∀ c ∈ word, isSeparator wildcard c = false)
    (inBlank : Bool) (hblank : inBlank = true → word = []) (query text : List Char) :
    Matches wildcard (wildcard :: (word ++ (collapse wildcard inBlank query ++ [wildcard]))) text ↔
      InOrder (words wildcard (word ++ query)) text := by
  induction query generalizing word inBlank text with
  | nil =>
      have hfree := not_mem_of_forall_isSeparator hword
      have hend : ∀ text, Matches wildcard [wildcard] text ↔ InOrder [] text := fun text =>
        iff_of_true (matches_singleton_wildcard text) (inOrder_nil text)
      rw [collapse, List.nil_append, List.append_nil, words_of_forall hword,
        matches_word_iff hfree hend, List.append_nil]
  | cons c query ih =>
      cases hc : isSeparator wildcard c with
      | false =>
          have hlonger : ∀ x ∈ word ++ [c], isSeparator wildcard x = false := by
            simpa [or_imp, forall_and, hc] using hword
          have hrest := ih hlonger false nofun text
          rw [collapse_cons_of_not_isSeparator hc]
          simpa using hrest
      | true =>
          have hfree := not_mem_of_forall_isSeparator hword
          have hnext (b : Bool) (text : List Char) :
              Matches wildcard (wildcard :: (collapse wildcard b query ++ [wildcard])) text ↔
                InOrder (words wildcard query) text :=
            ih (List.forall_mem_nil _) b (fun _ => rfl) text
          rw [words_append_cons hword hc]
          rcases collapse_cons_of_isSeparator hc inBlank query with ⟨b, hcollapse⟩ | ⟨hin, hcollapse⟩
          · rw [hcollapse]
            exact matches_word_iff hfree (hnext b)
          · rw [hcollapse, hblank hin]
            exact hnext true text

/-- What a wildcard stands for may begin a character earlier. -/
theorem Matches.wildcard_cons (h : Matches wildcard (wildcard :: pattern) text) (x : Char) :
    Matches wildcard (wildcard :: pattern) (x :: text) := by
  obtain ⟨k, h⟩ := matches_wildcard_iff.mp h
  exact matches_wildcard_iff.mpr ⟨k + 1, h⟩

/-- Every character of a pattern stands for itself, among other things. -/
theorem Matches.cons_self (h : Matches wildcard pattern text) (x : Char) :
    Matches wildcard (x :: pattern) (x :: text) := by
  by_cases hwildcard : x = wildcard
  · subst hwildcard
    exact .run [x] h
  · exact (matches_cons_cons_iff hwildcard).mpr ⟨Or.inr rfl, h⟩

/-- The pattern of a text stands for the text. While white space is being passed, the
wildcard in front of it swallows it. -/
theorem matches_collapse_self (wildcard : Char) (cs : List Char) :
    Matches wildcard (collapse wildcard false cs ++ [wildcard]) cs ∧
      Matches wildcard (wildcard :: (collapse wildcard true cs ++ [wildcard])) cs := by
  induction cs with
  | nil =>
      exact ⟨matches_singleton_wildcard [],
        matches_wildcard_wildcard_iff.mpr (matches_singleton_wildcard [])⟩
  | cons c cs ih =>
      obtain ⟨hword, hblank⟩ := ih
      rw [collapse, collapse]
      by_cases hc : Unicode.isWhiteSpace c = true
      · rw [if_pos hc, if_pos hc]
        exact ⟨hblank.wildcard_cons c, hblank.wildcard_cons c⟩
      · rw [if_neg hc, if_neg hc]
        have hself := hword.cons_self c
        exact ⟨hself, .run [] hself⟩

end Words

theorem accepts_ofQuery_iff_matches (wildcard : Char) (query text : String) :
    accepts wildcard (ofQuery wildcard query) text = true ↔
      Matches wildcard (wildcard :: (collapse wildcard false query.toList ++ [wildcard]))
        text.toList := by
  obtain ⟨b, hscan, hb⟩ := exists_scan_start wildcard
    (ofQuery wildcard query).toList.toArray text.toList.toArray
  rw [accepts, hscan, Option.getD_some, hb, List.toList_toArray, ofQuery, String.toList_ofList]

/-- The words of a query are what its pattern looks for. -/
theorem accepts_ofQuery_iff_inOrder (wildcard : Char) (query text : String) :
    accepts wildcard (ofQuery wildcard query) text = true ↔
      InOrder (words wildcard query.toList) text.toList := by
  rw [accepts_ofQuery_iff_matches]
  exact matches_collapse_iff (List.forall_mem_nil _) false nofun query.toList text.toList

/-- A query finds itself, whatever wildcards, `_` and white space it holds. -/
theorem accepts_ofQuery_self (wildcard : Char) (query : String) :
    accepts wildcard (ofQuery wildcard query) query = true := by
  rw [accepts_ofQuery_iff_matches]
  exact .run [] (matches_collapse_self wildcard query.toList).1

/-- The pattern of a query is the query between two wildcards, every maximal run of white
space in it being replaced by one wildcard; and it accepts the texts in which the words of
the query occur in their order without overlapping. -/
theorem accepts_ofQuery_iff (wildcard : Char) (query text : String) :
    (ofQuery wildcard query).toList =
        wildcard :: ((runs query.toList).flatMap (squeeze wildcard) ++ [wildcard]) ∧
      (accepts wildcard (ofQuery wildcard query) text = true ↔
        InOrder (words wildcard query.toList) text.toList) := by
  have hpattern : (ofQuery wildcard query).toList =
      wildcard :: (collapse wildcard false query.toList ++ [wildcard]) := String.toList_ofList
  constructor
  · rw [hpattern, collapse_eq_flatMap_runs]
  · obtain ⟨b, hscan, hb⟩ := exists_scan_start wildcard
      (ofQuery wildcard query).toList.toArray text.toList.toArray
    rw [accepts, hscan, Option.getD_some, hb, List.toList_toArray, hpattern]
    exact matches_collapse_iff (List.forall_mem_nil _) false (fun h => absurd h Bool.false_ne_true)
      query.toList text.toList

/-- Words are not looked for inside of one another: the second `ana` needs letters of its
own. The underscore takes any one character. -/
example : accepts '%' (ofQuery '%' " ana  _na") "banana" = false ∧
    accepts '%' (ofQuery '%' " ana  _na") "ananas una" = true := by decide

end Criteria.Pattern
