import Criteria.Calendar.Timestamp

/-!
# Order of days and instants

Days are compared by their index and timestamps by their instant. Every instant of a
day lies less than one day after its midnight, so that timestamps are in order when
their dates are, and on one date when their times of day are
(`Timestamp.instant_le_iff`).
-/

namespace Criteria

namespace Date

instance : LE Date := ⟨fun d e => d.index ≤ e.index⟩

instance : LT Date := ⟨fun d e => d.index < e.index⟩

instance (d e : Date) : Decidable (d ≤ e) := inferInstanceAs (Decidable (d.index ≤ e.index))

instance (d e : Date) : Decidable (d < e) := inferInstanceAs (Decidable (d.index < e.index))

theorem le_iff {d e : Date} : d ≤ e ↔ d.index ≤ e.index := Iff.rfl

theorem lt_iff {d e : Date} : d < e ↔ d.index < e.index := Iff.rfl

theorem index_inj {d e : Date} : d.index = e.index ↔ d = e :=
  ⟨eq_of_index_eq, congrArg index⟩

theorem compare_eq_gt_iff {d e : Date} : compare d e = .gt ↔ e < d :=
  Int.compare_eq_gt

end Date

namespace Timestamp

/-- Timestamps are ordered by their dates and then by their times of day. -/
theorem instant_le_iff (s t : Timestamp) :
    s.instant ≤ t.instant ↔
      s.date < t.date ∨ s.date = t.date ∧ s.time.sinceMidnight ≤ t.time.sinceMidnight := by
  have hs := s.time.sinceMidnight_lt
  have ht := t.time.sinceMidnight_lt
  rw [Date.lt_iff, ← Date.index_inj]
  simp only [instant, TimeOfDay.dayLength] at *
  constructor
  · intro h
    omega
  · rintro (h | ⟨hdate, h⟩)
    · omega
    · omega

/-- A day has begun from its midnight on. -/
theorem midnight_le_iff (day : Date) (t : Timestamp) :
    day.midnight.instant ≤ t.instant ↔ day ≤ t.date := by
  have hmidnight : day.midnight.time.sinceMidnight = 0 := TimeOfDay.sinceMidnight_midnight
  have hdate : day.midnight.date = day := rfl
  rw [instant_le_iff, hmidnight, hdate, Date.lt_iff, Date.le_iff, ← Date.index_inj]
  omega

/-- The timestamps from midnight to a time of day are those of that day which are not
later. -/
theorem mem_day_iff (day : Date) (time : TimeOfDay) (t : Timestamp) :
    day.midnight.instant ≤ t.instant ∧ t.instant ≤ instant ⟨day, time⟩ ↔
      t.date = day ∧ t.time.sinceMidnight ≤ time.sinceMidnight := by
  have hupper : t.instant ≤ instant ⟨day, time⟩ ↔
      t.date < day ∨ t.date = day ∧ t.time.sinceMidnight ≤ time.sinceMidnight :=
    instant_le_iff t ⟨day, time⟩
  rw [midnight_le_iff, hupper, Date.le_iff, Date.lt_iff, ← Date.index_inj]
  constructor
  · rintro ⟨hbegun, h | h⟩
    · omega
    · exact h
  · rintro ⟨hdate, htime⟩
    exact ⟨Int.le_of_eq hdate.symm, Or.inr ⟨hdate, htime⟩⟩

end Timestamp

end Criteria
