import Criteria.Proofs.Calendar.Order

/-!
# Spans of days

A span of days runs from its first day to its last, both included, and has at least
one day. Two spans meet when they have a day in common, which is a matter of their
ends (`Days.meets_iff_exists_mem`). That an end of one of them lies in the other is
not quite the same: it leaves out the spans that begin earlier and end later
(`Days.mem_ends_iff`).
-/

namespace Criteria

/-- The days from a first one to a last one. -/
structure Days where
  first : Date
  last : Date
  first_le_last : first ≤ last

namespace Days

instance : Membership Date Days := ⟨fun span day => span.first ≤ day ∧ day ≤ span.last⟩

theorem mem_def {span : Days} {day : Date} :
    day ∈ span ↔ span.first ≤ day ∧ day ≤ span.last := Iff.rfl

/-- Neither span is over before the other begins. -/
def Meets (a b : Days) : Prop := a.first ≤ b.last ∧ b.first ≤ a.last

/-- The span begins before the other one and ends after it. -/
def Surrounds (a b : Days) : Prop := a.first < b.first ∧ b.last < a.last

variable (a b : Days)

instance : Decidable (a.Meets b) := inferInstanceAs (Decidable (_ ∧ _))

instance : Decidable (a.Surrounds b) := inferInstanceAs (Decidable (_ ∧ _))

/-- Spans meet when they have a day in common. -/
theorem meets_iff_exists_mem : a.Meets b ↔ ∃ day, day ∈ a ∧ day ∈ b := by
  have ha := a.first_le_last
  have hb := b.first_le_last
  simp only [Meets, mem_def, Date.le_iff] at *
  constructor
  · rintro ⟨hab, hba⟩
    -- The first common day is the first day of the span that begins later.
    by_cases h : a.first.index ≤ b.first.index
    · exact ⟨b.first, ⟨h, hba⟩, Int.le_refl _, hb⟩
    · exact ⟨a.first, ⟨Int.le_refl _, ha⟩, by omega, hab⟩
  · rintro ⟨day, ⟨hfirst, hlast⟩, hfirst', hlast'⟩
    omega

/-- An end lies in another span where the two meet and the other is not surrounded. -/
theorem mem_ends_iff : a.first ∈ b ∨ a.last ∈ b ↔ a.Meets b ∧ ¬ a.Surrounds b := by
  have ha := a.first_le_last
  have hb := b.first_le_last
  simp only [Meets, Surrounds, mem_def, Date.le_iff, Date.lt_iff] at *
  omega

end Days

end Criteria
