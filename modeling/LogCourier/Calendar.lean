/-!
# The Gregorian calendar

Dates of the proleptic Gregorian calendar and clock times, as a number of nanoseconds
since the start of 1970.
-/

namespace LogCourier

namespace Calendar

/-- Whether a year has a 29th of February. -/
def isLeap (year : Int) : Bool :=
  year % 4 = 0 ∧ (year % 100 ≠ 0 ∨ year % 400 = 0)

/-- The number of days of a month. -/
def daysInMonth (year : Int) (month : Nat) : Nat :=
  match month with
  | 4 | 6 | 9 | 11 => 30
  | 2 => if isLeap year then 29 else 28
  | _ => 31

/-- The number of days from the first day of year 0 to the first day of a year. -/
def daysBeforeYear (year : Int) : Int :=
  365 * year + (year + 3) / 4 - (year + 99) / 100 + (year + 399) / 400

/-- The number of days of a year before a month. -/
def daysBeforeMonth (year : Int) (month : Nat) : Nat :=
  (List.range' 1 (month - 1)).foldl (fun n m => n + daysInMonth year m) 0

/-- The number of days from the first day of 1970 to a date. -/
def daysSinceEpoch (year : Int) (month day : Nat) : Int :=
  daysBeforeYear year - daysBeforeYear 1970 + daysBeforeMonth year month + day - 1

end Calendar

/-- A date and a clock time, with the distance of that clock from UTC in seconds. A second
of 60 is a leap second. -/
structure Moment where
  year : Int
  month : Nat
  day : Nat
  hour : Nat
  minute : Nat
  second : Nat
  nanosecond : Nat
  offset : Int
  deriving DecidableEq, Repr

namespace Moment

/-- Whether the date is in the calendar. -/
def HasDate (m : Moment) : Prop :=
  1 ≤ m.month ∧ m.month ≤ 12 ∧ 1 ≤ m.day ∧ m.day ≤ Calendar.daysInMonth m.year m.month

instance (m : Moment) : Decidable m.HasDate :=
  inferInstanceAs (Decidable (_ ∧ _ ∧ _ ∧ _))

/-- Whether the clock shows such a time. -/
def HasTime (m : Moment) : Prop :=
  m.hour ≤ 23 ∧ m.minute ≤ 59 ∧ m.second ≤ 60

instance (m : Moment) : Decidable m.HasTime :=
  inferInstanceAs (Decidable (_ ∧ _ ∧ _))

/-- The nanoseconds from the start of 1970 in UTC to a moment. -/
def nanosSinceEpoch (m : Moment) : Int :=
  1000000000 * (86400 * Calendar.daysSinceEpoch m.year m.month m.day
    + 3600 * m.hour + 60 * m.minute + m.second - m.offset) + m.nanosecond

end Moment

end LogCourier
