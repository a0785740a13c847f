/-!
# Property paths

A filter field names the stored property that it constrains by a path: the names
of the properties passed through, and at the end the one that is read, written
with points between them. No segment is empty.
-/

namespace Criteria

/-- Segments joined by points. -/
def dotJoin : List String → String
  | [] => ""
  | [s] => s
  | s :: t :: rest => s ++ "." ++ dotJoin (t :: rest)

/-- Pieces of a text between its points; a text without points is one piece. -/
def dotSplit : List Char → List (List Char)
  | [] => [[]]
  | c :: cs =>
      if c = '.' then [] :: dotSplit cs
      else match dotSplit cs with
        | [] => [[c]]
        | piece :: pieces => (c :: piece) :: pieces

theorem dotSplit_ne_nil (cs : List Char) : dotSplit cs ≠ [] := by
  cases cs with
  | nil => simp [dotSplit]
  | cons c cs =>
      simp only [dotSplit]
      split
      · simp
      · split <;> simp

theorem dotSplit_eq_singleton {cs : List Char} (h : '.' ∉ cs) : dotSplit cs = [cs] := by
  induction cs with
  | nil => rfl
  | cons c cs ih =>
      have hc : c ≠ '.' := fun hc => h (by simp [hc])
      have hcs : '.' ∉ cs := fun hcs => h (by simp [hcs])
      rw [dotSplit, if_neg hc, ih hcs]

/-- What stands in front of the first point is the first piece. -/
theorem dotSplit_append {cs : List Char} (h : '.' ∉ cs) (ds : List Char) :
    dotSplit (cs ++ '.' :: ds) = cs :: dotSplit ds := by
  induction cs with
  | nil => rfl
  | cons c cs ih =>
      have hc : c ≠ '.' := fun hc => h (by simp [hc])
      have hcs : '.' ∉ cs := fun hcs => h (by simp [hcs])
      rw [List.cons_append, dotSplit, if_neg hc, ih hcs]

/-- A path to a stored property: the segments passed through, then the last. -/
structure PropertyPath where
  parents : List String
  leaf : String
deriving DecidableEq, Repr

namespace PropertyPath

/-- All segments, from the root. -/
def segments (p : PropertyPath) : List String := p.parents ++ [p.leaf]

def toText (p : PropertyPath) : String := dotJoin p.segments

/-- The path passes through other properties. -/
def isNested (p : PropertyPath) : Bool := p.segments.length > 1

/-- The path with the given segments; there is none without segments or with an
empty one. -/
def ofSegments? (segments : List String) : Option PropertyPath :=
  match segments.getLast? with
  | none => none
  | some leaf =>
      if segments.any String.isEmpty then none else some ⟨segments.dropLast, leaf⟩

def ofText? (text : String) : Option PropertyPath :=
  ofSegments? ((dotSplit text.toList).map String.ofList)

@[simp] theorem segments_ne_nil (p : PropertyPath) : p.segments ≠ [] := by
  simp [segments]

theorem segments_ofSegments? {segments : List String} {p : PropertyPath}
    (h : ofSegments? segments = some p) : p.segments = segments := by
  unfold ofSegments? at h
  split at h
  · simp at h
  · rename_i leaf hl
    split at h
    · simp at h
    · have hp : ⟨segments.dropLast, leaf⟩ = p := by simpa using h
      subst hp
      have hne : segments ≠ [] := by
        intro hs
        simp [hs] at hl
      have hleaf : segments.getLast hne = leaf := by
        rw [List.getLast?_eq_some_getLast hne] at hl
        simpa using hl
      simp only [PropertyPath.segments, ← hleaf]
      exact List.dropLast_concat_getLast hne

end PropertyPath

end Criteria
