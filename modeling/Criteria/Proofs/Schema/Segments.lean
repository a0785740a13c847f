import Criteria.Proofs.Schema.Composition
import Mathlib.Data.List.Infix

/-!
# Texts that are paths

A text is a path where it is a sequence of segments with points between them
(`parse_inverts_dotJoin`). This can be told from the text alone: it has no point at
either end and no two points next to each other. Segments are read as they are written
and written as they are read, whatever characters other than points they are made of.
-/

namespace Criteria

/-- What may stand between the points of a path. -/
structure IsSegment (s : String) : Prop where
  ne_empty : s ≠ ""
  point_notMem : '.' ∉ s.toList

/-- Behind every point there is something else. -/
structure IsFollowed (cs : List Char) : Prop where
  last_ne : cs.getLast? ≠ some '.'
  apart : ¬ ['.', '.'] <:+: cs

/-- There is something else on either side of every point, and the text is not empty. -/
structure IsDotted (cs : List Char) : Prop extends IsFollowed cs where
  ne_nil : cs ≠ []
  head_ne : cs.head? ≠ some '.'

section Pieces

variable {c : Char} {cs piece : List Char} {pieces : List (List Char)}

theorem dotSplit_point (cs : List Char) : dotSplit ('.' :: cs) = [] :: dotSplit cs := rfl

/-- Any other character goes into the first piece. -/
theorem dotSplit_cons (hc : c ≠ '.') (h : dotSplit cs = piece :: pieces) :
    dotSplit (c :: cs) = (c :: piece) :: pieces := by
  rw [dotSplit, if_neg hc, h]

theorem exists_dotSplit_eq_cons (cs : List Char) : ∃ piece pieces, dotSplit cs = piece :: pieces :=
  List.exists_cons_of_ne_nil (dotSplit_ne_nil cs)

theorem point_notMem_of_mem_dotSplit (h : piece ∈ dotSplit cs) : '.' ∉ piece := by
  induction cs generalizing piece with
  | nil =>
      obtain rfl := List.mem_singleton.mp h
      exact List.not_mem_nil
  | cons c cs ih =>
      by_cases hc : c = '.'
      · subst hc
        rcases List.mem_cons.mp h with rfl | h
        · exact List.not_mem_nil
        · exact ih h
      · obtain ⟨first, rest, hsplit⟩ := exists_dotSplit_eq_cons cs
        rw [hsplit] at ih
        rw [dotSplit_cons hc hsplit] at h
        rcases List.mem_cons.mp h with rfl | h
        · exact List.not_mem_cons_of_ne_of_not_mem (Ne.symm hc) (ih List.mem_cons_self)
        · exact ih (List.mem_cons_of_mem first h)

theorem isFollowed_nil : IsFollowed [] := ⟨nofun, by simp⟩

theorem isFollowed_point_iff : IsFollowed ('.' :: cs) ↔ IsDotted cs := by
  cases cs with
  | nil =>
      constructor
      · intro h
        exact absurd rfl h.last_ne
      · intro h
        exact absurd rfl h.ne_nil
  | cons d cs =>
      have happart : ['.', '.'] <:+: '.' :: d :: cs ↔ '.' = d ∨ ['.', '.'] <:+: d :: cs := by
        rw [List.infix_cons_iff, List.cons_prefix_cons]
        simp
      constructor
      · rintro ⟨hlast, h⟩
        rw [happart, not_or] at h
        rw [List.getLast?_cons_cons] at hlast
        exact ⟨⟨hlast, h.2⟩, List.cons_ne_nil d cs, fun hd => h.1 (Option.some.inj hd).symm⟩
      · rintro ⟨⟨hlast, h⟩, -, hhead⟩
        refine ⟨by rwa [List.getLast?_cons_cons], ?_⟩
        rw [happart, not_or]
        exact ⟨fun hd => hhead (congrArg some hd.symm), h⟩

theorem isFollowed_cons_iff (hc : c ≠ '.') : IsFollowed (c :: cs) ↔ IsFollowed cs := by
  have happart : ['.', '.'] <:+: c :: cs ↔ ['.', '.'] <:+: cs := by
    simp [List.infix_cons_iff, Ne.symm hc]
  have hlast : (c :: cs).getLast? ≠ some '.' ↔ cs.getLast? ≠ some '.' := by
    cases cs with
    | nil => simpa using hc
    | cons d cs => rw [List.getLast?_cons_cons]
  constructor
  · rintro ⟨h, hapart⟩
    exact ⟨hlast.mp h, mt happart.mpr hapart⟩
  · rintro ⟨h, hapart⟩
    exact ⟨hlast.mpr h, mt happart.mp hapart⟩

/-- Only of the first piece more is asked than that something follows every point. -/
theorem nil_notMem_dotSplit_iff_of_tail (h : [] ∉ (dotSplit cs).tail ↔ IsFollowed cs) :
    [] ∉ dotSplit cs ↔ IsDotted cs := by
  cases cs with
  | nil => exact iff_of_false (not_not_intro List.mem_cons_self) fun h => h.ne_nil rfl
  | cons c cs =>
      by_cases hc : c = '.'
      · subst hc
        exact iff_of_false (not_not_intro List.mem_cons_self) fun h => h.head_ne rfl
      · obtain ⟨piece, pieces, hsplit⟩ := exists_dotSplit_eq_cons cs
        rw [dotSplit_cons hc hsplit, List.tail_cons] at h
        have hpieces : [] ∉ (c :: piece) :: pieces ↔ [] ∉ pieces := by simp
        rw [dotSplit_cons hc hsplit, hpieces, h]
        constructor
        · intro hfollowed
          exact ⟨hfollowed, List.cons_ne_nil c cs, fun hhead => hc (Option.some.inj hhead)⟩
        · intro hdotted
          exact hdotted.toIsFollowed

theorem nil_notMem_tail_dotSplit_iff : [] ∉ (dotSplit cs).tail ↔ IsFollowed cs := by
  induction cs with
  | nil => exact iff_of_true List.not_mem_nil isFollowed_nil
  | cons c cs ih =>
      by_cases hc : c = '.'
      · subst hc
        rw [dotSplit_point, List.tail_cons, isFollowed_point_iff]
        exact nil_notMem_dotSplit_iff_of_tail ih
      · obtain ⟨piece, pieces, hsplit⟩ := exists_dotSplit_eq_cons cs
        rw [dotSplit_cons hc hsplit, List.tail_cons, isFollowed_cons_iff hc, ← ih, hsplit,
          List.tail_cons]

/-- No piece is empty where every point stands between two of them. -/
theorem nil_notMem_dotSplit_iff : [] ∉ dotSplit cs ↔ IsDotted cs :=
  nil_notMem_dotSplit_iff_of_tail nil_notMem_tail_dotSplit_iff

end Pieces

section Segments

variable {segments : List String}

theorem toList_dotJoin_cons_cons (s t : String) (rest : List String) :
    (dotJoin (s :: t :: rest)).toList = s.toList ++ '.' :: (dotJoin (t :: rest)).toList := by
  rw [dotJoin, String.toList_append, String.toList_append, List.append_assoc]
  rfl

/-- Segments that have been joined are taken apart again. -/
theorem dotSplit_dotJoin (hne : segments ≠ []) (h : ∀ s ∈ segments, '.' ∉ s.toList) :
    dotSplit (dotJoin segments).toList = segments.map String.toList := by
  induction segments with
  | nil => exact absurd rfl hne
  | cons s rest ih =>
      obtain ⟨hs, hrest⟩ := List.forall_mem_cons.mp h
      cases rest with
      | nil => exact dotSplit_eq_singleton hs
      | cons t rest =>
          rw [toList_dotJoin_cons_cons, dotSplit_append hs, ih (List.cons_ne_nil t rest) hrest]
          rfl

end Segments

namespace PropertyPath

variable {text other : String} {p q : PropertyPath} {segments : List String}

theorem exists_segments_eq (h : segments ≠ []) : ∃ p : PropertyPath, p.segments = segments :=
  ⟨⟨segments.dropLast, segments.getLast h⟩, List.dropLast_concat_getLast h⟩

/-- The segments of a path that has been read. -/
theorem isSegment_of_parse (h : parse text = .ok p) : ∀ s ∈ p.segments, IsSegment s := by
  obtain ⟨hsegments, hempty⟩ := parse_eq_ok_iff.mp h
  intro s hs
  refine ⟨fun hs' => hempty (hs' ▸ hs), ?_⟩
  rw [hsegments] at hs
  obtain ⟨piece, hpiece, rfl⟩ := List.mem_map.mp hs
  rw [String.toList_ofList]
  exact point_notMem_of_mem_dotSplit hpiece

/-- Whatever segments are joined, the text of the path is read as them. -/
theorem parse_dotJoin (hne : segments ≠ []) (h : ∀ s ∈ segments, IsSegment s)
    (hp : p.segments = segments) : parse (dotJoin segments) = .ok p := by
  rw [parse_eq_ok_iff, dotSplit_dotJoin hne fun s hs => (h s hs).point_notMem, hp]
  constructor
  · simp
  · exact fun hempty => (h "" hempty).ne_empty rfl

theorem exists_parse_eq_ok_iff : (∃ p, parse text = .ok p) ↔ IsDotted text.toList := by
  rw [← nil_notMem_dotSplit_iff]
  have hempty : "" ∈ (dotSplit text.toList).map String.ofList ↔ [] ∈ dotSplit text.toList := by
    simp [String.ofList_eq_empty_iff]
  constructor
  · rintro ⟨p, hp⟩ hnil
    obtain ⟨hsegments, hne⟩ := parse_eq_ok_iff.mp hp
    rw [hsegments] at hne
    exact hne (hempty.mpr hnil)
  · intro hnil
    have hne : (dotSplit text.toList).map String.ofList ≠ [] := by simp [dotSplit_ne_nil]
    obtain ⟨p, hp⟩ := exists_segments_eq hne
    exact ⟨p, parse_eq_ok_iff.mpr ⟨hp, by rwa [hp, hempty]⟩⟩

/-- A refusal tells the text that is refused. -/
theorem eq_emptySegment_of_parse {cause : ResolveError} (h : parse text = .error cause) :
    cause = .emptySegment text := by
  unfold parse at h
  cases hp : ofText? text with
  | none =>
      rw [hp] at h
      exact (Except.error.inj h).symm
  | some p =>
      rw [hp] at h
      cases h

/-- Different texts are read differently, those included that are refused. -/
theorem parse_injective : Function.Injective parse := by
  intro text other h
  cases hparse : parse text with
  | ok p => rw [← toText_of_parse hparse, toText_of_parse (h ▸ hparse)]
  | error cause =>
      have htext := eq_emptySegment_of_parse hparse
      have hother := eq_emptySegment_of_parse (h ▸ hparse)
      exact ResolveError.emptySegment.inj (htext.symm.trans hother)

/-- A text is a path where it is joined from segments, and this is so where it is not
empty and has no point at either end or next to another. A path is written as it was
read; segments that are joined are read again, each by itself; and no two texts are read
as the same path. -/
theorem parse_inverts_dotJoin (text : String) :
    ((∃ p, parse text = .ok p) ↔
      ∃ segments, segments ≠ [] ∧ (∀ s ∈ segments, IsSegment s) ∧ dotJoin segments = text) ∧
    ((∃ p, parse text = .ok p) ↔ IsDotted text.toList) ∧
    (∀ p, parse text = .ok p → (∀ s ∈ p.segments, IsSegment s) ∧ p.toText = text) ∧
    (∀ segments, segments ≠ [] → (∀ s ∈ segments, IsSegment s) →
      ∃ p, parse (dotJoin segments) = .ok p ∧ p.segments = segments) ∧
    ∀ other, parse text = parse other → text = other := by
  have hjoined (segments : List String) (hne : segments ≠ [])
      (h : ∀ s ∈ segments, IsSegment s) :
      ∃ p, parse (dotJoin segments) = .ok p ∧ p.segments = segments := by
    obtain ⟨p, hp⟩ := exists_segments_eq hne
    exact ⟨p, parse_dotJoin hne h hp, hp⟩
  refine ⟨⟨?_, ?_⟩, exists_parse_eq_ok_iff, ?_, hjoined, fun other h => parse_injective h⟩
  · rintro ⟨p, hp⟩
    exact ⟨p.segments, p.segments_ne_nil, isSegment_of_parse hp, toText_of_parse hp⟩
  · rintro ⟨segments, hne, h, rfl⟩
    obtain ⟨p, hp, -⟩ := hjoined segments hne h
    exact ⟨p, hp⟩
  · intro p hp
    exact ⟨isSegment_of_parse hp, toText_of_parse hp⟩

/-- A blank and a name beyond ASCII are segments; a point behind them is too much. -/
theorem parse_inverts_dotJoin_blank :
    (∃ p, parse " .größe" = .ok p ∧ p.segments = [" ", "größe"]) ∧
      ¬ ∃ p, parse " .größe." = .ok p := by
  have hsegments : ∀ s ∈ [" ", "größe"], IsSegment s :=
    List.forall_mem_cons.mpr ⟨⟨by decide, by decide⟩,
      List.forall_mem_singleton.mpr ⟨by decide, by decide⟩⟩
  obtain ⟨-, -, -, hjoined, -⟩ := parse_inverts_dotJoin " .größe"
  obtain ⟨-, hdotted, -, -, -⟩ := parse_inverts_dotJoin " .größe."
  constructor
  · exact hjoined [" ", "größe"] (List.cons_ne_nil _ _) hsegments
  · rw [hdotted]
    intro h
    exact h.last_ne rfl

end PropertyPath

end Criteria
