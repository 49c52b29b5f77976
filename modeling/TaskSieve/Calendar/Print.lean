import TaskSieve.Calendar.Stamp
import TaskSieve.Number.Layout

set_option autoImplicit false

/-! # Writing stamps

A stamp is written as date, separator and time, with six digits of a fraction unless it is zero,
and with its offset. The full form writes all of the offset, and universal time as `+00:00`; the
short form used in payloads and saved files writes whole minutes of it, and universal time as `Z`.
The expanded form names the parts of a stamp one by one. -/

namespace TaskSieve.Calendar

/-- A date as `YYYY-MM-DD`. -/
def CivilDate.text (d : CivilDate) : String :=
  paddedText 4 d.year ++ "-" ++ paddedText 2 d.month ++ "-" ++ paddedText 2 d.day

/-- A time of day in microseconds as `HH:MM:SS`, with a fraction of six digits unless it is
zero. -/
def timeText (ticks : Nat) : String :=
  let seconds := ticks / 1000000
  let micros := ticks % 1000000
  let clock := paddedText 2 (seconds / 3600) ++ ":" ++ paddedText 2 (seconds / 60 % 60) ++ ":" ++
    paddedText 2 (seconds % 60)
  if micros = 0 then clock else clock ++ "." ++ paddedText 6 micros

/-- An offset as `±HH:MM`, with seconds and a fraction unless they are zero. -/
def offsetText (offset : Int) : String :=
  let size := offset.natAbs
  let seconds := size / 1000000
  let micros := size % 1000000
  let short := paddedText 2 (seconds / 3600) ++ ":" ++ paddedText 2 (seconds / 60 % 60)
  let long := if seconds % 60 = 0 ∧ micros = 0 then short
    else short ++ ":" ++ paddedText 2 (seconds % 60)
  let full := if micros = 0 then long else long ++ "." ++ paddedText 6 micros
  (if offset < 0 then "-" else "+") ++ full

/-- An offset as `±HH:MM`, or `Z` for one below a second; the seconds beyond whole minutes are not
written. -/
def shortOffsetText (offset : Int) : String :=
  let seconds := offset / secondTicks
  let minutes := seconds.natAbs / 60
  if seconds = 0 then "Z"
  else (if seconds < 0 then "-" else "+") ++ paddedText 2 (minutes / 60) ++ ":" ++
    paddedText 2 (minutes % 60)

/-- A date by its parts. -/
def CivilDate.expandedText (d : CivilDate) : String :=
  "datetime.date(" ++ ", ".intercalate ([d.year, d.month, d.day].map toString) ++ ")"

/-- An offset by its parts: days, of which only a negative offset has any, seconds and
microseconds, each unless it is zero. -/
def expandedOffsetText (offset : Int) : String :=
  if offset = 0 then "datetime.timezone.utc"
  else
    let ofDay := offset % dayTicks
    let parts := [("days", offset / dayTicks), ("seconds", ofDay / secondTicks),
      ("microseconds", ofDay % secondTicks)].filter (·.2 != 0)
    "datetime.timezone(datetime.timedelta(" ++
      ", ".intercalate (parts.map fun p => p.1 ++ "=" ++ integerText p.2) ++ "))"

namespace Stamp

/-- Date and time of a stamp with a separator between them. -/
def clockText (separator : String) (s : Stamp) : String :=
  s.date.text ++ separator ++ timeText s.timeOfDay

/-- The full form of a stamp. -/
def text (s : Stamp) : String :=
  s.clockText "T" ++ (s.offset.map offsetText).getD ""

/-- The full form of a stamp with a space between date and time. -/
def spacedText (s : Stamp) : String :=
  s.clockText " " ++ (s.offset.map offsetText).getD ""

/-- The short form of a stamp. -/
def shortText (s : Stamp) : String :=
  s.clockText "T" ++ (s.offset.map shortOffsetText).getD ""

/-- The expanded form of a stamp: a last part of zero microseconds, and then of zero seconds, is
left out. -/
def expandedText (s : Stamp) : String :=
  let seconds := s.timeOfDay / 1000000
  let micros := s.timeOfDay % 1000000
  let parts := [s.date.year, s.date.month, s.date.day, seconds / 3600, seconds / 60 % 60] ++
    (if seconds % 60 = 0 ∧ micros = 0 then [] else [seconds % 60]) ++
    (if micros = 0 then [] else [micros])
  let offset := match s.offset with
    | none => ""
    | some n => ", tzinfo=" ++ expandedOffsetText n
  "datetime.datetime(" ++ ", ".intercalate (parts.map toString) ++ offset ++ ")"

end Stamp

end TaskSieve.Calendar
