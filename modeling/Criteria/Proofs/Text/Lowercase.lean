import Criteria.Text.Lowercase
import Criteria.Unicode.WhiteSpace

/-!
# Characters in lower case

A capital takes one character as its lower-case form, and so does the sigma, which has
two to choose from; only the capital I with a dot above takes two characters. Capitals
and forms stay clear of the signs that a search goes by: white space, the percent sign
and the underscore. A text in lower case therefore has the same signs in the same places,
between the forms of its other characters.
-/

namespace Criteria

namespace Unicode

/-- Code points of the signs that a search goes by. -/
def signRanges : List (Nat × Nat) := (0x25, 0x25) :: (0x5F, 0x5F) :: whiteSpaceRanges

def isSign (c : Char) : Bool := inRanges signRanges c.toNat

/-- Neither the capitals of a run nor their forms lie in the range. -/
def CaseRun.avoids (r : CaseRun) (range : Nat × Nat) : Bool :=
  (r.last < range.1 || range.2 < r.first) &&
    (r.target + (r.last - r.first) < range.1 || range.2 < r.target)

/-- The forms of a run are characters. -/
def CaseRun.isValid (r : CaseRun) : Bool :=
  r.target + (r.last - r.first) < 0xD800 ||
    (0xDFFF < r.target && r.target + (r.last - r.first) < 0x110000)

theorem lowerRuns_avoids_signRanges :
    lowerRuns.all (fun r => r.isValid && signRanges.all r.avoids) = true := by
  decide +kernel

section Runs

variable {r : CaseRun} {range : Nat × Nat} {n : Nat} {c : Char}

theorem isValid_of_mem_lowerRuns (hr : r ∈ lowerRuns) : r.isValid = true := by
  have hall := List.all_eq_true.mp lowerRuns_avoids_signRanges r hr
  rw [Bool.and_eq_true] at hall
  exact hall.1

theorem avoids_of_mem_lowerRuns (hr : r ∈ lowerRuns) (hrange : range ∈ signRanges) :
    r.avoids range = true := by
  have hall := List.all_eq_true.mp lowerRuns_avoids_signRanges r hr
  rw [Bool.and_eq_true] at hall
  exact List.all_eq_true.mp hall.2 range hrange

/-- A capital lies within its run, and its form lies as far behind the first one. -/
theorem bounds_of_covers (h : r.covers n = true) :
    (r.first ≤ n ∧ n ≤ r.last) ∧
      r.target ≤ r.lower n ∧ r.lower n ≤ r.target + (r.last - r.first) := by
  simp only [CaseRun.covers, Bool.and_eq_true, decide_eq_true_eq] at h
  obtain ⟨⟨hfirst, hlast⟩, -⟩ := h
  exact ⟨⟨hfirst, hlast⟩, Nat.le_add_right _ _,
    Nat.add_le_add_left (Nat.sub_le_sub_right hlast r.first) r.target⟩

theorem isSign_eq_false_iff :
    isSign c = false ↔ ∀ range ∈ signRanges, ¬ (range.1 ≤ c.toNat ∧ c.toNat ≤ range.2) := by
  simp [isSign, inRanges]

theorem isSign_eq_false_of_covers (hr : r ∈ lowerRuns) (h : r.covers c.toNat = true) :
    isSign c = false := by
  obtain ⟨hbounds, -⟩ := bounds_of_covers h
  rw [isSign_eq_false_iff]
  intro range hrange
  have havoids := avoids_of_mem_lowerRuns hr hrange
  simp only [CaseRun.avoids, Bool.and_eq_true, Bool.or_eq_true, decide_eq_true_eq] at havoids
  omega

theorem toNat_ofNat_lower (hr : r ∈ lowerRuns) (h : r.covers n = true) :
    (Char.ofNat (r.lower n)).toNat = r.lower n := by
  obtain ⟨-, hlower⟩ := bounds_of_covers h
  have hvalid := isValid_of_mem_lowerRuns hr
  simp only [CaseRun.isValid, Bool.or_eq_true, Bool.and_eq_true, decide_eq_true_eq] at hvalid
  have hchar : (r.lower n).isValidChar := by
    unfold Nat.isValidChar
    omega
  rw [Char.ofNat, dif_pos hchar]
  rfl

theorem isSign_ofNat_lower (hr : r ∈ lowerRuns) (h : r.covers n = true) :
    isSign (Char.ofNat (r.lower n)) = false := by
  obtain ⟨-, hlower⟩ := bounds_of_covers h
  rw [isSign_eq_false_iff, toNat_ofNat_lower hr h]
  intro range hrange
  have havoids := avoids_of_mem_lowerRuns hr hrange
  simp only [CaseRun.avoids, Bool.and_eq_true, Bool.or_eq_true, decide_eq_true_eq] at havoids
  omega

end Runs

/-- A character is written in lower case as two, as its form in a run, or as itself. -/
theorem lowerChar_cases (c : Char) :
    (c = 'İ' ∧ lowerChar c = ['i', '\u0307']) ∨
      (∃ r ∈ lowerRuns, r.covers c.toNat = true ∧
        lowerChar c = [Char.ofNat (r.lower c.toNat)]) ∨
      lowerChar c = [c] := by
  unfold lowerChar
  by_cases hc : c.toNat = 0x130
  · left
    rw [if_pos hc]
    exact ⟨Char.toNat_inj.mp hc, rfl⟩
  · right
    rw [if_neg hc]
    cases hfind : lowerRuns.find? (·.covers c.toNat) with
    | none => exact Or.inr rfl
    | some r =>
        have hcovers := List.find?_some hfind
        exact Or.inl ⟨r, List.mem_of_find?_eq_some hfind, hcovers, rfl⟩

theorem lowerChar_of_isSign {c : Char} (h : isSign c = true) : lowerChar c = [c] := by
  rcases lowerChar_cases c with ⟨rfl, -⟩ | ⟨r, hr, hcovers, -⟩ | hself
  · exact absurd h (by decide)
  · rw [isSign_eq_false_of_covers hr hcovers] at h
    cases h
  · exact hself

theorem isSign_of_mem_lowerChar {c x : Char} (h : isSign c = false) (hx : x ∈ lowerChar c) :
    isSign x = false := by
  rcases lowerChar_cases c with ⟨-, hlower⟩ | ⟨r, hr, hcovers, hlower⟩ | hlower
  · rw [hlower, List.mem_cons, List.mem_singleton] at hx
    rcases hx with rfl | rfl <;> decide
  · rw [hlower] at hx
    obtain rfl := List.mem_singleton.mp hx
    exact isSign_ofNat_lower hr hcovers
  · rw [hlower] at hx
    obtain rfl := List.mem_singleton.mp hx
    exact h

theorem exists_lowerChar_eq_singleton {c : Char} (h : c ≠ 'İ') : ∃ x, lowerChar c = [x] := by
  rcases lowerChar_cases c with ⟨hc, -⟩ | ⟨r, -, -, hlower⟩ | hlower
  · exact absurd hc h
  · exact ⟨_, hlower⟩
  · exact ⟨_, hlower⟩

end Unicode

namespace Text

open Criteria.Unicode

/-- A character of a text together with its lower-case form there, which for a sigma
depends on its neighbours. -/
structure Letter where
  char : Char
  form : List Char
  isForm : char = 'Σ' ∧ (∃ before after, form = [lowerSigma before after]) ∨
    char ≠ 'Σ' ∧ form = lowerChar char

/-- The letter that a character is between its neighbours, those in front reversed. -/
def Letter.between (before after : List Char) (c : Char) : Letter :=
  if h : c = 'Σ' then ⟨c, [lowerSigma before after], Or.inl ⟨h, before, after, rfl⟩⟩
  else ⟨c, lowerChar c, Or.inr ⟨h, rfl⟩⟩

/-- The letters of a text, the reversed text `before` having been read. -/
def lettersFrom (before : List Char) : List Char → List Letter
  | [] => []
  | c :: after => .between before after c :: lettersFrom (c :: before) after

def letters (s : String) : List Letter := lettersFrom [] s.toList

namespace Letter

@[simp] theorem char_between (before after : List Char) (c : Char) :
    (between before after c).char = c := by
  unfold between
  split <;> rfl

theorem form_between (before after : List Char) (c : Char) :
    (between before after c).form =
      if c = 'Σ' then [lowerSigma before after] else lowerChar c := by
  unfold between
  split <;> rfl

variable {l : Letter}

theorem form_of_ne_sigma (h : l.char ≠ 'Σ') : l.form = lowerChar l.char := by
  rcases l.isForm with ⟨hsigma, -⟩ | ⟨-, hform⟩
  · exact absurd hsigma h
  · exact hform

theorem form_of_isSign (h : isSign l.char = true) : l.form = [l.char] := by
  rw [form_of_ne_sigma, lowerChar_of_isSign h]
  intro hsigma
  rw [hsigma] at h
  exact absurd h (by decide)

theorem isSign_of_mem_form (h : isSign l.char = false) {x : Char} (hx : x ∈ l.form) :
    isSign x = false := by
  rcases l.isForm with ⟨-, before, after, hform⟩ | ⟨-, hform⟩
  · rw [hform] at hx
    obtain rfl := List.mem_singleton.mp hx
    unfold lowerSigma
    split <;> decide
  · rw [hform] at hx
    exact isSign_of_mem_lowerChar h hx

theorem exists_form_eq_singleton (h : l.char ≠ 'İ') : ∃ x, l.form = [x] := by
  rcases l.isForm with ⟨-, before, after, hform⟩ | ⟨-, hform⟩
  · exact ⟨_, hform⟩
  · rw [hform]
    exact exists_lowerChar_eq_singleton h

theorem form_ne_nil (l : Letter) : l.form ≠ [] := by
  by_cases h : l.char = 'İ'
  · rw [form_of_ne_sigma (by rw [h]; decide), h]
    decide
  · obtain ⟨x, hx⟩ := exists_form_eq_singleton h
    rw [hx]
    exact List.cons_ne_nil x []

end Letter

theorem map_char_lettersFrom (before cs : List Char) :
    (lettersFrom before cs).map Letter.char = cs := by
  induction cs generalizing before with
  | nil => rfl
  | cons c cs ih => rw [lettersFrom, List.map_cons, ih, Letter.char_between]

theorem flatMap_form_lettersFrom (before cs : List Char) :
    (lettersFrom before cs).flatMap Letter.form = lowerFrom before cs := by
  induction cs generalizing before with
  | nil => rfl
  | cons c cs ih => rw [lettersFrom, List.flatMap_cons, ih, Letter.form_between, lowerFrom]

theorem map_char_letters (s : String) : (letters s).map Letter.char = s.toList :=
  map_char_lettersFrom [] s.toList

theorem flatMap_form_letters (s : String) :
    (letters s).flatMap Letter.form = (lowercase s).toList := by
  rw [letters, flatMap_form_lettersFrom, lowercase, String.toList_ofList]

end Text

end Criteria
