import Criteria.Schema.Resolution

/-!
# Paths and their text

Joining the pieces of a text by points gives the text back. A path is therefore
printed as the text it was read from, and reading that text again gives the same
path.
-/

namespace Criteria

/-- A character in front of the first segment goes in front of the whole text. -/
theorem dotJoin_cons_ofList (c : Char) (piece : List Char) (rest : List String) :
    dotJoin (String.ofList (c :: piece) :: rest) =
      String.singleton c ++ dotJoin (String.ofList piece :: rest) := by
  cases rest with
  | nil => exact String.ofList_cons
  | cons s rest =>
      rw [dotJoin, dotJoin, String.ofList_cons, String.append_assoc, String.append_assoc,
        String.append_assoc]

/-- Splitting at the points loses nothing. -/
theorem dotJoin_map_dotSplit (cs : List Char) :
    dotJoin ((dotSplit cs).map String.ofList) = String.ofList cs := by
  induction cs with
  | nil => rfl
  | cons c cs ih =>
      have hsplit := dotSplit_ne_nil cs
      rw [dotSplit, String.ofList_cons]
      cases h : dotSplit cs with
      | nil => exact absurd h hsplit
      | cons piece pieces =>
          rw [h, List.map_cons] at ih
          -- A point opens a new piece; any other character goes into the first one.
          by_cases hc : c = '.'
          · rw [if_pos hc, List.map_cons, List.map_cons, dotJoin, ih, hc]
            rfl
          · rw [if_neg hc]
            rw [List.map_cons, dotJoin_cons_ofList, ih]

namespace PropertyPath

theorem ofText?_of_parse {text : String} {p : PropertyPath} (h : parse text = .ok p) :
    ofText? text = some p := by
  unfold parse at h
  cases hp : ofText? text with
  | none => simp [hp] at h
  | some q =>
      rw [hp] at h
      exact congrArg some (Except.ok.inj h)

/-- A path is printed as the text it was read from. -/
theorem toText_of_parse {text : String} {p : PropertyPath} (h : parse text = .ok p) :
    p.toText = text := by
  have hsegments := segments_ofSegments? (ofText?_of_parse h)
  rw [toText, hsegments, dotJoin_map_dotSplit, String.ofList_toList]

/-- A path that has been read is read again from its printed form. -/
theorem parse_toText {text : String} {p : PropertyPath} (h : parse text = .ok p) :
    parse p.toText = .ok p := by
  rw [toText_of_parse h, h]

end PropertyPath

end Criteria
