import Criteria.Calendar.Date

/-!
# Times of day and timestamps

A timestamp is a date with a time of day, down to the nanosecond and without a
zone. It is written as the date, the letter `T` and `HH:MM:SS`, followed by a
point and nine digits when the second is not a whole one. Timestamps are ordered
through `Timestamp.instant`, which counts nanoseconds along `Date.index`.
-/

namespace Criteria

/-- A time of day without leap seconds. -/
structure TimeOfDay where
  hour : Fin 24
  minute : Fin 60
  second : Fin 60
  nanosecond : Fin 1000000000
deriving DecidableEq

namespace TimeOfDay

/-- The first instant of a day. -/
def midnight : TimeOfDay := ⟨0, 0, 0, 0⟩

/-- The last whole second of a day. -/
def lastSecond : TimeOfDay := ⟨23, 59, 59, 0⟩

def sinceMidnight (t : TimeOfDay) : Nat :=
  ((t.hour.val * 60 + t.minute.val) * 60 + t.second.val) * 1000000000 + t.nanosecond.val

def dayLength : Nat := 86400000000000

theorem sinceMidnight_lt (t : TimeOfDay) : t.sinceMidnight < dayLength := by
  have := t.hour.isLt
  have := t.minute.isLt
  have := t.second.isLt
  have := t.nanosecond.isLt
  simp only [sinceMidnight, dayLength]
  omega

@[simp] theorem sinceMidnight_midnight : midnight.sinceMidnight = 0 := rfl

def toText (t : TimeOfDay) : String :=
  paddedDigits 2 t.hour.val ++ ":" ++ paddedDigits 2 t.minute.val ++ ":" ++
    paddedDigits 2 t.second.val ++
    (if t.nanosecond.val = 0 then "" else "." ++ paddedDigits 9 t.nanosecond.val)

/-- Nanoseconds written by one to nine digits behind a point; none is zero. -/
def readFraction? (cs : List Char) : Option Nat :=
  match cs with
  | [] => some 0
  | '.' :: ds =>
      if ds.length ≤ 9 then (readDigits? ds).map (· * Nat.pow 10 (9 - ds.length)) else none
  | _ => none

def ofText? (cs : List Char) : Option TimeOfDay :=
  match cs with
  | h₁ :: h₂ :: ':' :: m₁ :: m₂ :: ':' :: s₁ :: s₂ :: rest => do
      let h ← readDigits? [h₁, h₂]
      let m ← readDigits? [m₁, m₂]
      let s ← readDigits? [s₁, s₂]
      let n ← readFraction? rest
      if hh : h < 24 then
        if hm : m < 60 then
          if hs : s < 60 then
            if hn : n < 1000000000 then
              some ⟨⟨h, hh⟩, ⟨m, hm⟩, ⟨s, hs⟩, ⟨n, hn⟩⟩
            else none
          else none
        else none
      else none
  | _ => none

end TimeOfDay

/-- A date with a time of day. -/
structure Timestamp where
  date : Date
  time : TimeOfDay
deriving DecidableEq

namespace Timestamp

/-- Position of the timestamp in nanoseconds. -/
def instant (t : Timestamp) : Int :=
  t.date.index * TimeOfDay.dayLength + t.time.sinceMidnight

instance : Ord Timestamp := ⟨fun s t => compare s.instant t.instant⟩

def toText (t : Timestamp) : String := t.date.toText ++ "T" ++ t.time.toText

def ofText? (cs : List Char) : Option Timestamp :=
  match cs.dropWhile (· ≠ 'T') with
  | 'T' :: time => do
      let d ← Date.ofText? (cs.takeWhile (· ≠ 'T'))
      let t ← TimeOfDay.ofText? time
      some ⟨d, t⟩
  | _ => none

end Timestamp

namespace Date

/-- The first instant of the date. -/
def midnight (d : Date) : Timestamp := ⟨d, .midnight⟩

/-- The last whole second of the date. -/
def lastSecond (d : Date) : Timestamp := ⟨d, .lastSecond⟩

end Date

end Criteria
