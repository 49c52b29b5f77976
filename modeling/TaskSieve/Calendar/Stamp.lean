import TaskSieve.Calendar.Civil

set_option autoImplicit false

/-! # Time stamps

A stamp is the reading of a clock to the microsecond, with or without the clock's offset from
universal time. Readings are counted in microseconds from midnight of the first day of year 1, so
moving a stamp, comparing two and cutting one to its day are arithmetic on integers. -/

namespace TaskSieve.Calendar

/-- Microseconds in a second. -/
def secondTicks : Int := 1000000

/-- Microseconds in a minute. -/
def minuteTicks : Int := 60 * secondTicks

/-- Microseconds in an hour. -/
def hourTicks : Int := 60 * minuteTicks

/-- Microseconds in a day. -/
def dayTicks : Int := 24 * hourTicks

/-- The number of days in the years 1 to 9999. -/
def dayCount : Nat := 3652059

/-- A clock reading in microseconds since the start of year 1, and the clock's offset from
universal time in microseconds, if it is known. -/
structure Stamp where
  ticks : Int
  offset : Option Int
deriving DecidableEq, Repr, Inhabited

namespace Stamp

/-- Whether a reading lies in the years 1 to 9999. -/
def inRange (ticks : Int) : Bool :=
  0 ≤ ticks && ticks < dayCount * dayTicks

/-- The number of the day that a stamp's own clock shows. -/
def dayNumber (s : Stamp) : Int := s.ticks / dayTicks

/-- The date that a stamp's own clock shows. -/
def date (s : Stamp) : CivilDate := .ofDayNumber s.dayNumber.toNat

/-- The microseconds since midnight that a stamp's own clock shows. -/
def timeOfDay (s : Stamp) : Nat := (s.ticks % dayTicks).toNat

/-- The reading of a clock without offset at the same instant; a stamp without offset is read as
universal time. -/
def instant (s : Stamp) : Int := s.ticks - s.offset.getD 0

/-- The same instant in universal time, if it lies in the years 1 to 9999. -/
def toUniversal? (s : Stamp) : Option Stamp :=
  if inRange s.instant then some ⟨s.instant, some 0⟩ else none

/-- The stamp a number of microseconds later, or earlier if the number is negative; none beyond
the years 1 to 9999. -/
def shift? (s : Stamp) (ticks : Int) : Option Stamp :=
  if inRange (s.ticks + ticks) then some ⟨s.ticks + ticks, s.offset⟩ else none

/-- Midnight at the start of a day. -/
def ofDay (dayNumber : Nat) (offset : Option Int) : Stamp :=
  ⟨dayNumber * dayTicks, offset⟩

/-- The stamp of a date and a number of microseconds since its midnight. -/
def ofParts (dayNumber ticks : Nat) (offset : Option Int) : Stamp :=
  ⟨dayNumber * dayTicks + ticks, offset⟩

/-- A number of seconds later, without a check of the range. -/
def plusSeconds (s : Stamp) (seconds : Int) : Stamp :=
  ⟨s.ticks + seconds * secondTicks, s.offset⟩

/-- How two stamps compare: by instant if both have an offset, by reading if neither has one; a
stamp with and one without offset have no order. -/
def compare? (a b : Stamp) : Option Ordering :=
  if a.offset.isSome = b.offset.isSome then some (compare a.instant b.instant) else none

/-- Whether two stamps are the same: a stamp with and one without offset never are. -/
def same (a b : Stamp) : Bool := compare? a b == some .eq

end Stamp

end TaskSieve.Calendar
