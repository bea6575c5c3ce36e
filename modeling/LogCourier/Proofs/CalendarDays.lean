import LogCourier.Calendar
import Mathlib.Data.Int.Init
import Mathlib.Tactic.Common

/-!
# Counting days

The calendar, day by day: every date has one after it and one before it (`Calendar.Date.next`,
`Calendar.Date.prev`). Counted in this way from the first day of 1970, in either direction
(`Calendar.Counts`), every number of days leads to one date, and back from the date the calendar
computes the number (`Calendar.counts_iff`).
-/

namespace LogCourier.Calendar

/-- A date of the calendar. -/
@[ext]
structure Date where
  year : Int
  month : Nat
  day : Nat
  one_le_month : 1 ≤ month
  month_le : month ≤ 12
  one_le_day : 1 ≤ day
  day_le : day ≤ daysInMonth year month

/-! ### Months and years -/

theorem daysInMonth_bounds (year : Int) (month : Nat) :
  1 ≤ daysInMonth year month ∧ daysInMonth year month ≤ 31
  := by
  rw [daysInMonth.eq_def]
  split
  case h_5 => cases isLeap year <;> decide
  all_goals decide

theorem one_le_daysInMonth (year : Int) (month : Nat) :
  1 ≤ daysInMonth year month
  := (daysInMonth_bounds year month).1

/-- The days before the next month are those before the month and those of the month. -/
theorem daysBeforeMonth_succ (year : Int) {month : Nat} (h : 1 ≤ month) :
  daysBeforeMonth year (month + 1) = daysBeforeMonth year month + daysInMonth year month
  := by
  have hrange : List.range' 1 (month + 1 - 1) = List.range' 1 (month - 1) ++ [month] := by
    rw [Nat.add_sub_cancel]
    conv => lhs; rw [← Nat.sub_add_cancel h]
    rw [List.range'_concat, Nat.one_mul, Nat.add_sub_cancel' h]
  rw [daysBeforeMonth, hrange, List.foldl_append]
  rfl

/-- The days of a year. -/
def daysInYear (year : Int) : Nat :=
  if isLeap year then 366 else 365

theorem daysBeforeMonth_end (year : Int) :
  daysBeforeMonth year 13 = daysInYear year
  := by
  cases h : isLeap year <;> simp [daysBeforeMonth, daysInYear, daysInMonth, List.range', h]

theorem daysBeforeYear_succ (year : Int) :
  daysBeforeYear (year + 1) = daysBeforeYear year + daysInYear year
  := by
  rw [daysBeforeYear, daysBeforeYear, daysInYear, isLeap]
  split
  · next h =>
    rw [decide_eq_true_eq] at h
    omega
  · next h =>
    rw [decide_eq_true_eq] at h
    omega

/-- Within a year the days before a month grow from month to month, by the days of each. -/
theorem daysBeforeMonth_add_le (year : Int) {month month' : Nat} (hpos : 1 ≤ month)
    (hlt : month < month') :
  daysBeforeMonth year month + daysInMonth year month ≤ daysBeforeMonth year month'
  := by
  induction hlt with
  | refl => exact Nat.le_of_eq (daysBeforeMonth_succ year hpos).symm
  | @step month' hle ih =>
      have hmonth' : 1 ≤ month' := Nat.le_trans (Nat.le_add_left 1 month) hle
      rw [daysBeforeMonth_succ year hmonth']
      exact Nat.le_trans ih (Nat.le_add_right _ _)

/-! ### From one day to the next -/

theorem daysSinceEpoch_day (year : Int) (month day : Nat) :
  daysSinceEpoch year month (day + 1) = daysSinceEpoch year month day + 1
  := by
  rw [daysSinceEpoch, daysSinceEpoch]
  omega

theorem daysSinceEpoch_month (year : Int) {month : Nat} (h : 1 ≤ month) :
  daysSinceEpoch year (month + 1) 1 = daysSinceEpoch year month (daysInMonth year month) + 1
  := by
  rw [daysSinceEpoch, daysSinceEpoch, daysBeforeMonth_succ year h]
  omega

theorem daysSinceEpoch_year (year : Int) :
  daysSinceEpoch (year + 1) 1 1 = daysSinceEpoch year 12 31 + 1
  := by
  have hend : daysBeforeMonth year 12 + 31 = daysInYear year :=
    (daysBeforeMonth_succ year (by decide)).symm.trans (daysBeforeMonth_end year)
  have hfirst : daysBeforeMonth (year + 1) 1 = 0 := rfl
  rw [daysSinceEpoch, daysSinceEpoch, daysBeforeYear_succ, hfirst]
  omega

namespace Date

variable {d d' : Date}

/-- The first day of 1970. -/
def epoch : Date :=
  ⟨1970, 1, 1, by decide, by decide, by decide, by decide⟩

/-- The day after a date. -/
def next (d : Date) : Date :=
  if h : d.day < daysInMonth d.year d.month then
    ⟨d.year, d.month, d.day + 1, d.one_le_month, d.month_le, Nat.le_add_left 1 d.day, h⟩
  else if h : d.month < 12 then
    ⟨d.year, d.month + 1, 1, Nat.le_add_left 1 d.month, h, Nat.le_refl 1, one_le_daysInMonth _ _⟩
  else ⟨d.year + 1, 1, 1, by decide, by decide, by decide, one_le_daysInMonth _ _⟩

/-- The day before a date. -/
def prev (d : Date) : Date :=
  if h : 1 < d.day then
    ⟨d.year, d.month, d.day - 1, d.one_le_month, d.month_le, Nat.le_sub_one_of_lt h,
      Nat.le_trans (Nat.sub_le _ _) d.day_le⟩
  else if h : 1 < d.month then
    ⟨d.year, d.month - 1, daysInMonth d.year (d.month - 1), Nat.le_sub_one_of_lt h,
      Nat.le_trans (Nat.sub_le _ _) d.month_le, one_le_daysInMonth _ _, Nat.le_refl _⟩
  else ⟨d.year - 1, 12, 31, by decide, by decide, by decide, Nat.le_refl 31⟩

/-- The number of days from the first day of 1970 to a date, as the calendar computes it. -/
def days (d : Date) : Int :=
  daysSinceEpoch d.year d.month d.day

theorem days_next :
  d.next.days = d.days + 1
  := by
  rw [next]
  split
  · apply daysSinceEpoch_day
  · next h =>
    have hday : d.day = daysInMonth d.year d.month := Nat.le_antisymm d.day_le (Nat.le_of_not_lt h)
    rw [days.eq_def d, hday]
    split
    · apply daysSinceEpoch_month _ d.one_le_month
    · next h =>
      have hmonth : d.month = 12 := Nat.le_antisymm d.month_le (Nat.le_of_not_lt h)
      rw [hmonth]
      apply daysSinceEpoch_year

theorem days_prev :
  d.prev.days = d.days - 1
  := by
  suffices hnext : d.prev.days + 1 = d.days by
    rw [← hnext, Int.add_sub_cancel]
  rw [prev]
  split
  · have hday := daysSinceEpoch_day d.year d.month (d.day - 1)
    rw [Nat.sub_add_cancel d.one_le_day] at hday
    exact hday.symm
  · next h =>
    have hday : d.day = 1 := Nat.le_antisymm (Nat.le_of_not_lt h) d.one_le_day
    rw [days.eq_def d, hday]
    split
    · next h =>
      have hmonth := daysSinceEpoch_month d.year (Nat.le_sub_one_of_lt h)
      rw [Nat.sub_add_cancel d.one_le_month] at hmonth
      exact hmonth.symm
    · next h =>
      have hmonth : d.month = 1 := Nat.le_antisymm (Nat.le_of_not_lt h) d.one_le_month
      have hyear := daysSinceEpoch_year (d.year - 1)
      rw [Int.sub_add_cancel] at hyear
      rw [hmonth]
      exact hyear.symm

/-- The days of a year lie between its first day and the first day of the next year. -/
theorem days_bounds (d : Date) :
  daysBeforeYear d.year - daysBeforeYear 1970 ≤ d.days
    ∧ d.days < daysBeforeYear (d.year + 1) - daysBeforeYear 1970
  := by
  have hend := daysBeforeMonth_add_le d.year d.one_le_month (Nat.lt_succ_of_le d.month_le)
  rw [daysBeforeMonth_end] at hend
  have hfirst := d.one_le_day
  have hlast := d.day_le
  rw [days, daysSinceEpoch, daysBeforeYear_succ]
  omega

/-- A date is earlier than another one. -/
def IsBefore (d d' : Date) : Prop :=
  d.year < d'.year ∨ d.year = d'.year
    ∧ (d.month < d'.month ∨ d.month = d'.month ∧ d.day < d'.day)

/-- Earlier dates have smaller numbers. -/
theorem days_lt (h : d.IsBefore d') :
  d.days < d'.days
  := by
  rcases h with hyear | ⟨hyear, hmonth | ⟨hmonth, hday⟩⟩
  · have hbound := d.days_bounds.2
    have hbound' := d'.days_bounds.1
    have hmono : daysBeforeYear (d.year + 1) ≤ daysBeforeYear d'.year := by
      rw [daysBeforeYear, daysBeforeYear]
      omega
    omega
  · have hmono := daysBeforeMonth_add_le d.year d.one_le_month hmonth
    have hlast := d.day_le
    have hfirst := d'.one_le_day
    rw [days, days, daysSinceEpoch, daysSinceEpoch, ← hyear]
    omega
  · rw [days, days, daysSinceEpoch, daysSinceEpoch, ← hyear, ← hmonth]
    omega

theorem days_injective (h : d.days = d'.days) :
  d = d'
  := by
  have hbefore : ¬ d.IsBefore d' := fun hlt => Int.ne_of_lt (days_lt hlt) h
  have hafter : ¬ d'.IsBefore d := fun hlt => Int.ne_of_lt (days_lt hlt) h.symm
  rw [IsBefore] at hbefore hafter
  ext <;> omega

end Date

/-- The date is the given number of days after the first day of 1970, or before it if the number is
negative. -/
inductive Counts : Date → Int → Prop
  | epoch : Counts .epoch 0
  | next {d : Date} {n : Int} (h : Counts d n) : Counts d.next (n + 1)
  | prev {d : Date} {n : Int} (h : Counts d n) : Counts d.prev (n - 1)

variable {d : Date} {n : Int}

theorem Counts.eq_days (h : Counts d n) :
  n = d.days
  := by
  induction h with
  | epoch => rfl
  | next h ih => rw [Date.days_next, ih]
  | prev h ih => rw [Date.days_prev, ih]

theorem exists_counts (n : Int) :
  ∃ d, Counts d n
  := by
  induction n using Int.induction_on with
  | zero => exact ⟨_, .epoch⟩
  | succ n ih =>
      obtain ⟨d, h⟩ := ih
      exact ⟨_, h.next⟩
  | pred n ih =>
      obtain ⟨d, h⟩ := ih
      exact ⟨_, h.prev⟩

/-- The calendar computes the number of days to a date. -/
theorem counts_iff :
  Counts d n ↔ n = d.days
  := by
  constructor
  · apply Counts.eq_days
  · rintro rfl
    -- counting leads to some date with this number of days, and no other date has it
    obtain ⟨d', h⟩ := exists_counts d.days
    rwa [← Date.days_injective h.eq_days] at h

example : Date.days ⟨2000, 2, 29, by decide, by decide, by decide, by decide⟩ = 11016 := by decide

end LogCourier.Calendar
