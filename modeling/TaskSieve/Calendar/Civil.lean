set_option autoImplicit false

/-! # Civil dates

Dates of the calendar with leap years every four years, except in centuries that four hundred does
not divide. A date is also a day number, counted from the first day of year 1, and the two views
are computed from each other by the cycles of 400, 100, 4 and 1 years. -/

namespace TaskSieve.Calendar

/-- A year, a month and a day of the month, both counted from 1. -/
structure CivilDate where
  year : Nat
  month : Nat
  day : Nat
deriving DecidableEq, Repr

/-- Whether a year has a 29th of February. -/
def isLeap (year : Nat) : Bool :=
  year % 4 == 0 && (year % 100 != 0 || year % 400 == 0)

/-- The number of days in a month; a month that does not exist has none. -/
def daysInMonth (year month : Nat) : Nat :=
  match month with
  | 1 | 3 | 5 | 7 | 8 | 10 | 12 => 31
  | 4 | 6 | 9 | 11 => 30
  | 2 => if isLeap year then 29 else 28
  | _ => 0

/-- The days of a year before a month. -/
def daysBeforeMonth (year month : Nat) : Nat :=
  (List.range (month - 1)).foldl (fun days m => days + daysInMonth year (m + 1)) 0

/-- The days before a year, from year 1 on. -/
def daysBeforeYear (year : Nat) : Nat :=
  let past := year - 1
  past * 365 + past / 4 - past / 100 + past / 400

namespace CivilDate

/-- The last year that dates reach. -/
def lastYear : Nat := 9999

/-- Whether the date exists in one of the years 1 to 9999. -/
def isValid (d : CivilDate) : Bool :=
  1 ≤ d.year && d.year ≤ lastYear && 1 ≤ d.day && d.day ≤ daysInMonth d.year d.month

/-- The number of days from the first day of year 1 to this date. -/
def dayNumber (d : CivilDate) : Nat :=
  daysBeforeYear d.year + daysBeforeMonth d.year d.month + (d.day - 1)

/-- Finds the month of a day of a year, and its day within the month. -/
def monthOf (year : Nat) : (months : List Nat) → (day : Nat) → Nat × Nat
  | [], day => (12, day)
  | m :: later, day =>
    if day < daysInMonth year m then (m, day) else monthOf year later (day - daysInMonth year m)

/-- The date with this day number. -/
def ofDayNumber (n : Nat) : CivilDate :=
  let n400 := n / 146097
  let r400 := n % 146097
  let n100 := min 3 (r400 / 36524)
  let r100 := r400 - n100 * 36524
  let n4 := r100 / 1461
  let r4 := r100 % 1461
  let n1 := min 3 (r4 / 365)
  let r1 := r4 - n1 * 365
  let year := 400 * n400 + 100 * n100 + 4 * n4 + n1 + 1
  let (month, day) := monthOf year [1, 2, 3, 4, 5, 6, 7, 8, 9, 10, 11] r1
  ⟨year, month, day + 1⟩

end CivilDate

/-! ## Weeks -/

/-- The day of the week, Monday being 0. -/
def weekday (dayNumber : Nat) : Nat := dayNumber % 7

/-- Whether a year has 53 weeks: it begins on a Thursday, or on a Wednesday if it is a leap
year. -/
def hasLongWeekYear (year : Nat) : Bool :=
  let first := weekday (daysBeforeYear year)
  first == 3 || (first == 2 && isLeap year)

/-- The day number of a day of a numbered week. Week 1 is the week of the year's first Thursday,
and both weeks and days are counted from 1. -/
def dayOfWeek? (year week day : Nat) : Option Nat :=
  let first := daysBeforeYear year
  let start := first + (if weekday first ≤ 3 then 0 else 7)
  let weeks := if hasLongWeekYear year then 53 else 52
  if year < 1 ∨ week < 1 ∨ weeks < week ∨ day < 1 ∨ 7 < day then none
  else some (start + 7 * (week - 1) + (day - 1) - weekday first)

end TaskSieve.Calendar
