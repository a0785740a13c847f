/-!
# Calendar dates

A date of the proleptic Gregorian calendar, with a year zero and negative
years. A date is written `YYYY-MM-DD`, the year in at least four digits and
behind a minus sign when it is negative. Dates are ordered through `Date.index`,
their position on a calendar all of whose months have 31 days.
-/

namespace Criteria

/-- A year with a 29 February. -/
def isLeapYear (year : Int) : Bool :=
  year % 4 == 0 && (year % 100 != 0 || year % 400 == 0)

def daysInMonth (year : Int) (month : Nat) : Nat :=
  match month with
  | 2 => if isLeapYear year then 29 else 28
  | 4 | 6 | 9 | 11 => 30
  | _ => 31

theorem daysInMonth_le (year : Int) (month : Nat) : daysInMonth year month ≤ 31 := by
  unfold daysInMonth
  split <;> (try split) <;> omega

/-- Year, month and day name a day of the calendar. -/
def IsDay (year : Int) (month day : Nat) : Prop :=
  (1 ≤ month ∧ month ≤ 12) ∧ 1 ≤ day ∧ day ≤ daysInMonth year month

instance (year : Int) (month day : Nat) : Decidable (IsDay year month day) :=
  inferInstanceAs (Decidable (_ ∧ _))

/-- A day of the calendar. -/
structure Date where
  year : Int
  month : Nat
  day : Nat
  isDay : IsDay year month day
deriving DecidableEq

namespace Date

/-- The date with the given parts, if there is such a day. -/
def ofParts? (year : Int) (month day : Nat) : Option Date :=
  if h : IsDay year month day then some ⟨year, month, day, h⟩ else none

/-- Position of the date among all dates, months counted as 31 days. -/
def index (d : Date) : Int := d.year * 372 + (d.month - 1 : Nat) * 31 + (d.day - 1 : Nat)

/-- Dates are told apart by their position. -/
theorem eq_of_index_eq {d e : Date} (h : d.index = e.index) : d = e := by
  obtain ⟨y, m, k, ⟨hm, hm'⟩, hk, hk'⟩ := d
  obtain ⟨y', m', k', ⟨hn, hn'⟩, hl, hl'⟩ := e
  have := daysInMonth_le y m
  have := daysInMonth_le y' m'
  simp only [index] at h
  have hy : y = y' := by omega
  have hmm : m = m' := by omega
  have hkk : k = k' := by omega
  subst hy hmm hkk
  rfl

instance : Ord Date := ⟨fun d e => compare d.index e.index⟩

end Date

def paddedDigits (width n : Nat) : String :=
  let digits := Nat.toDigits 10 n
  String.ofList (List.replicate (width - digits.length) '0' ++ digits)

/-- The number written by a non-empty run of decimal digits. -/
def readDigits? (cs : List Char) : Option Nat :=
  if cs ≠ [] ∧ cs.all Char.isDigit then
    some (cs.foldl (fun n c => 10 * n + (c.toNat - '0'.toNat)) 0)
  else none

namespace Date

def toText (d : Date) : String :=
  (if d.year < 0 then "-" else "") ++ paddedDigits 4 d.year.natAbs ++ "-" ++
    paddedDigits 2 d.month ++ "-" ++ paddedDigits 2 d.day

/-- Reads year digits, then a month and a day of two digits each. -/
def ofDigits? (sign : Int) (cs : List Char) : Option Date :=
  let year := cs.takeWhile Char.isDigit
  match cs.dropWhile Char.isDigit with
  | ['-', m₁, m₂, '-', d₁, d₂] => do
      let y ← readDigits? year
      let m ← readDigits? [m₁, m₂]
      let d ← readDigits? [d₁, d₂]
      if year.length < 4 then none else ofParts? (sign * y) m d
  | _ => none

def ofText? (cs : List Char) : Option Date :=
  match cs with
  | '-' :: rest => ofDigits? (-1) rest
  | _ => ofDigits? 1 cs

end Date

end Criteria
