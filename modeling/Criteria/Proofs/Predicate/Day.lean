import Criteria.Proofs.Calendar.Order
import Criteria.Proofs.Predicate.Answer

/-!
# A literal that asks for its day

A date or a timestamp can ask for the calendar day it lies on. The predicate that is
built is a range of two literals, midnight and the last whole second of the day, both
included. A stored timestamp is found where it lies on the day, down to the last
whole second: the range is as precise as seconds are, so that what comes between
that second and the next day is left out.
-/

namespace Criteria

/-- The calendar day of a temporal value. -/
def Value.day? : Value → Option Date
  | date d => some d
  | timestamp t => some t.date
  | _ => none

theorem Value.fallsOn_timestamp (day : Date) (t : Timestamp) :
    (timestamp t).fallsOn day = true ↔
      t.date = day ∧ t.time.sinceMidnight ≤ TimeOfDay.lastSecond.sinceMidnight := by
  rw [fallsOn, ← isWithin_eq_any, isWithin_iff_of_instant rfl rfl rfl]
  exact t.mem_day_iff day .lastSecond

namespace Dialect

/-- A literal of either kind asks for its day in the same way. -/
theorem leaf_dateTimeToDate (d : Dialect) (ref : PropertyRef) {literal : Value} {day : Date}
    (hday : literal.day? = some day) :
    d.leaf ref literal .dateTimeToDate = .ok (.calendarDay (.property ref) day) := by
  cases literal with
  | date | timestamp =>
      obtain rfl := Option.some.inj hday
      rfl
  | _ => cases hday

/-- A literal that asks for its day finds the timestamps of that day, up to its last
whole second. -/
theorem holds_leaf_dateTimeToDate (d d' : Dialect) (ref : PropertyRef) (row : Row)
    {literal : Value} {day : Date} {t : Timestamp} (hday : literal.day? = some day)
    (ht : row.get ref = some (.timestamp t)) :
    ∃ p, d.leaf ref literal .dateTimeToDate = .ok p ∧
      (p.holds d' row = true ↔
        t.date = day ∧ t.time.sinceMidnight ≤ TimeOfDay.lastSecond.sinceMidnight) := by
  refine ⟨.calendarDay (.property ref) day, d.leaf_dateTimeToDate ref hday, ?_⟩
  rw [d'.holds_calendarDay row ref day, ht, Option.any_some]
  exact Value.fallsOn_timestamp day t

end Dialect

/-- A time on the fifth of March 2024. -/
def Timestamp.march (time : TimeOfDay) : Timestamp := ⟨⟨2024, 3, 5, by decide⟩, time⟩

/-- A row that was created at a time on that day. -/
def Row.created (time : TimeOfDay) : Row := Row.ofDotted fun column =>
  [("created", .timestamp (.march time))].lookup column

namespace Dialect

theorem holds_leaf_dateTimeToDate_noon :
    ∃ p, leaf ⟨id, '%'⟩ (.navigate ["created"]) (.timestamp (.march .midnight))
        .dateTimeToDate = .ok p ∧
      p.holds ⟨id, '%'⟩ (.created ⟨12, 0, 0, 1⟩) = true := by
  have hday : (Value.timestamp (.march .midnight)).day? =
      some (Timestamp.march .midnight).date := rfl
  obtain ⟨p, hp, hholds⟩ := holds_leaf_dateTimeToDate ⟨id, '%'⟩ ⟨id, '%'⟩ (.navigate ["created"])
    (.created ⟨12, 0, 0, 1⟩) hday rfl
  exact ⟨p, hp, hholds.mpr ⟨rfl, by decide⟩⟩

/-- Half a second before the day ends a timestamp of it is no longer found. -/
theorem holds_leaf_dateTimeToDate_end :
    ∃ p, leaf ⟨id, '%'⟩ (.navigate ["created"]) (.date (Timestamp.march .midnight).date)
        .dateTimeToDate = .ok p ∧
      (Timestamp.march ⟨23, 59, 59, 500000000⟩).date = (Timestamp.march .midnight).date ∧
      p.holds ⟨id, '%'⟩ (.created ⟨23, 59, 59, 500000000⟩) = false := by
  refine ⟨_, leaf_dateTimeToDate ⟨id, '%'⟩ (.navigate ["created"]) rfl, rfl, ?_⟩
  rw [holds_calendarDay]
  decide

end Dialect

end Criteria
