import Criteria.Proofs.Calendar.Order

/-!
# Days and time gone by

`Date.number` counts the days since the first day of year zero, with all leap days,
and `Timestamp.elapsed` the nanoseconds since that day began. Dates and timestamps are
compared by a position on a calendar of equal months instead; since every month fits
into 31 days and every year into twelve such months, this is the order of the time gone
by (`Timestamp.compare_elapsed`).
-/

namespace Criteria

/-- Days from the beginning of year zero to that of a year. Every fourth year has a leap
day, but of the hundredth ones only every fourth. -/
def daysBeforeYear (year : Int) : Int :=
  365 * year + (year + 3) / 4 - (year + 99) / 100 + (year + 399) / 400

/-- Days in the first months of a year. -/
def daysInMonths (year : Int) : Nat → Nat
  | 0 => 0
  | months + 1 => daysInMonths year months + daysInMonth year (months + 1)

theorem daysInMonths_mono (year : Int) {m n : Nat} (h : m ≤ n) :
    daysInMonths year m ≤ daysInMonths year n := by
  induction h with
  | refl => exact Nat.le_refl _
  | step _ ih => exact Nat.le_trans ih (Nat.le_add_right _ _)

theorem daysBeforeYear_succ (year : Int) :
    daysBeforeYear (year + 1) = daysBeforeYear year + daysInMonths year 12 := by
  simp only [daysInMonths, daysInMonth, isLeapYear, daysBeforeYear]
  by_cases h4 : year % 4 = 0
  · by_cases h100 : year % 100 = 0
    · by_cases h400 : year % 400 = 0
      · simp [h4, h100, h400]
        omega
      · simp [h4, h100, h400]
        omega
    · simp [h4, h100]
      omega
  · simp [h4]
    omega

theorem daysBeforeYear_mono {y y' : Int} (h : y ≤ y') : daysBeforeYear y ≤ daysBeforeYear y' := by
  simp only [daysBeforeYear]
  omega

namespace Date

/-- Days since the first day of year zero. -/
def number (d : Date) : Int :=
  daysBeforeYear d.year + daysInMonths d.year (d.month - 1) + (d.day - 1 : Nat)

/-- A date lies in its month. -/
theorem number_bounds (d : Date) :
    daysBeforeYear d.year + daysInMonths d.year (d.month - 1) ≤ d.number ∧
      d.number < daysBeforeYear d.year + daysInMonths d.year d.month := by
  obtain ⟨y, m, k, ⟨hm, _⟩, hk, hk'⟩ := d
  obtain ⟨m, rfl⟩ : ∃ n, m = n + 1 := ⟨m - 1, by omega⟩
  simp only [number, daysInMonths, Nat.add_sub_cancel] at *
  omega

theorem number_lt_of_lt {d e : Date} (h : d < e) : d.number < e.number := by
  have hcases : d.year < e.year ∨ d.year = e.year ∧ d.month < e.month ∨
      d.year = e.year ∧ d.month = e.month ∧ d.day < e.day := by
    have := d.isDay
    have := e.isDay
    have := daysInMonth_le d.year d.month
    have := daysInMonth_le e.year e.month
    simp only [lt_iff, index, IsDay] at *
    omega
  have hend := d.number_bounds.2
  have hstart := e.number_bounds.1
  rcases hcases with hyear | ⟨hyear, hmonth⟩ | ⟨hyear, hmonth, hday⟩
  · have hmonths := daysInMonths_mono d.year d.isDay.1.2
    have hnext := daysBeforeYear_succ d.year
    have hyears : daysBeforeYear (d.year + 1) ≤ daysBeforeYear e.year :=
      daysBeforeYear_mono hyear
    omega
  · have hmonths : daysInMonths d.year d.month ≤ daysInMonths d.year (e.month - 1) :=
      daysInMonths_mono d.year (by omega)
    rw [← hyear] at hstart
    omega
  · have hfirst := d.isDay.2.1
    rw [number, number, hyear, hmonth]
    omega

/-- Dates are in order when as many days have gone by. -/
theorem number_lt_iff {d e : Date} : d.number < e.number ↔ d < e := by
  constructor
  · intro h
    rcases Int.lt_trichotomy d.index e.index with hlt | heq | hgt
    · exact hlt
    · rw [eq_of_index_eq heq] at h
      exact absurd h (Int.lt_irrefl _)
    · exact absurd h (Int.not_lt.mpr (Int.le_of_lt (number_lt_of_lt hgt)))
  · exact number_lt_of_lt

/-- A leap day lies in between. -/
example : number ⟨2024, 3, 1, by decide⟩ - number ⟨2024, 2, 28, by decide⟩ = 2 := by decide

end Date

namespace Timestamp

/-- Nanoseconds since year zero began. -/
def elapsed (t : Timestamp) : Int :=
  t.date.number * TimeOfDay.dayLength + t.time.sinceMidnight

theorem elapsed_lt_iff (s t : Timestamp) : s.elapsed < t.elapsed ↔ s.instant < t.instant := by
  have hs := s.time.sinceMidnight_lt
  have ht := t.time.sinceMidnight_lt
  have hlt : s.date.number < t.date.number ↔ s.date.index < t.date.index := Date.number_lt_iff
  have hgt : t.date.number < s.date.number ↔ t.date.index < s.date.index := Date.number_lt_iff
  simp only [elapsed, instant, TimeOfDay.dayLength] at *
  omega

/-- Timestamps are compared by the time gone by. -/
theorem compare_elapsed (s t : Timestamp) :
    compare s.elapsed t.elapsed = compare s.instant t.instant := by
  have hlt := elapsed_lt_iff s t
  have hgt := elapsed_lt_iff t s
  rcases Int.lt_trichotomy s.instant t.instant with h | h | h
  · rw [Int.compare_eq_lt.mpr h, Int.compare_eq_lt.mpr (hlt.mpr h)]
  · rw [Int.compare_eq_eq.mpr h, Int.compare_eq_eq.mpr (by omega)]
  · rw [Int.compare_eq_gt.mpr h, Int.compare_eq_gt.mpr (hgt.mpr h)]

end Timestamp

end Criteria
