import TaskSieve.Calendar.Stamp
import TaskSieve.Text.Digit

set_option autoImplicit false

/-! # Reading dates and times

Filter values and raw tasks write a date as `YYYY-MM-DD`, `YYYYMMDD`, `YYYY-Www[-D]` or
`YYYYWww[D]`, and may add a time after any one separating character: hours, minutes and seconds
with or without colons, a fraction after a point or a comma of which six digits count, and an
offset from universal time. -/

namespace TaskSieve.Calendar.Iso

open TaskSieve.Text (digitsValue)

/-- Splits off `count` digits and gives their value. -/
def digits? (count : Nat) (cs : List Char) : Option (Nat × List Char) :=
  let ds := cs.take count
  if ds.length = count ∧ ds.all Char.isDigit then some (digitsValue ds, cs.drop count) else none

/-- Splits off a hyphen, if one is wanted. -/
def hyphen? (wanted : Bool) (cs : List Char) : Option (List Char) :=
  match wanted, cs with
  | false, cs => some cs
  | true, '-' :: rest => some rest
  | true, _ => none

/-! ## Dates -/

/-- How many of the characters write the date. A week may or may not be followed by a day, which
the hyphens, or else the number of digits, decide. -/
def dateLength? (cs : List Char) : Option Nat :=
  let total := cs.length
  let mark := cs.getD 4 '\x00'
  if total = 7 then some 7
  else if mark = '-' then
    if cs.getD 5 '\x00' ≠ 'W' then some 10
    else if cs.getD 8 '\x00' ≠ '-' then some 8
    else if total = 9 then none
    else if (cs.getD 10 '\x00').isDigit then some 8
    else some 10
  else if mark = 'W' then
    let stop := 7 + ((cs.drop 7).takeWhile Char.isDigit).length
    if stop < 9 then some stop
    else if stop % 2 = 0 then some 7
    else some 8
  else some 8

/-- The day number of a month and a day. -/
def readMonthDay? (year : Nat) (hyphens : Bool) (cs : List Char) : Option Nat := do
  let (month, cs) ← digits? 2 cs
  let cs ← hyphen? hyphens cs
  let (day, rest) ← digits? 2 cs
  let date : CivilDate := ⟨year, month, day⟩
  if rest.isEmpty && date.isValid then some date.dayNumber else none

/-- The day number of a week and a day of the week; without a day it is the Monday. -/
def readWeek? (year : Nat) (hyphens : Bool) (cs : List Char) : Option Nat := do
  let (week, cs) ← digits? 2 cs
  if cs.isEmpty then dayOfWeek? year week 1
  else
    let cs ← hyphen? hyphens cs
    let (day, _) ← digits? 1 cs
    dayOfWeek? year week day

/-- The day number of a date. -/
def readDate? (cs : List Char) : Option Nat := do
  let (year, cs) ← digits? 4 cs
  let (hyphens, cs) := match cs with
    | '-' :: rest => (true, rest)
    | rest => (false, rest)
  let day ← match cs with
    | 'W' :: rest => readWeek? year hyphens rest
    | rest => readMonthDay? year hyphens rest
  if day < dayCount then some day else none

/-! ## Times -/

/-- A reading of hours, minutes, seconds and microseconds, not yet checked against the clock, and
whether text is left over behind it. -/
structure Reading where
  hours : Nat
  minutes : Nat
  seconds : Nat
  micros : Nat
  leftover : Bool
deriving Repr

/-- Whether text is left over; a null character ends the text. -/
def isLeft (rest : List Char) : Bool :=
  rest.head?.any (· != '\x00')

/-- Reads up to `count` pairs of digits: their values, whether a fraction follows, and the rest.
The first separator decides whether colons are used (`colons` is then known), and a point or a
comma starts the fraction. A single ASCII character after a pair is left over. -/
def readPairs? (colons : Option Bool) : (count : Nat) → List Char →
    Option (List Nat × Bool × List Char)
  | 0, cs => some ([], true, cs)
  | count + 1, cs => do
    let (value, rest) ← digits? 2 cs
    match rest with
    | c :: next :: tail =>
      let colons := colons.getD (c == ':')
      let further := next :: tail
      if colons && c == ':' then
        let (values, more) ← readPairs? (some colons) count further
        some (value :: values, more)
      else if c = '.' ∨ c = ',' then some ([value], true, further)
      else if colons then none
      else
        let (values, more) ← readPairs? (some colons) count rest
        some (value :: values, more)
    | [c] => if c.toNat < 0x80 then some ([value], false, [c]) else none
    | [] => some ([value], false, [])

/-- Reads a fraction of a second: up to six digits count, further digits are passed over. -/
def readFraction? (cs : List Char) : Option (Nat × List Char) :=
  let shown := cs.take 6
  if shown.all Char.isDigit then
    some (digitsValue shown * Nat.pow 10 (6 - shown.length), (cs.drop 6).dropWhile Char.isDigit)
  else none

/-- Reads hours, minutes, seconds and a fraction. -/
def readReading? (cs : List Char) : Option Reading := do
  let (values, fraction, rest) ← readPairs? none 3 cs
  let (micros, rest) ← if fraction then readFraction? rest else some (0, rest)
  some ⟨values.getD 0 0, values.getD 1 0, values.getD 2 0, micros, isLeft rest⟩

/-- The length of a reading in microseconds. -/
def Reading.ticks (r : Reading) : Nat :=
  ((r.hours * 60 + r.minutes) * 60 + r.seconds) * 1000000 + r.micros

/-- The offset that a sign and a reading write: less than a day, with nothing left over. An offset
below a second is none. -/
def readOffset? (negative : Bool) (cs : List Char) : Option Int := do
  let r ← readReading? cs
  let size : Int := r.ticks
  if r.leftover || decide (dayTicks ≤ size) then none
  else if size < secondTicks then some 0
  else some (if negative then -size else size)

/-- Reads a time of day in microseconds and its offset. Text left over between the time and an
offset is passed over. -/
def readTime? (cs : List Char) : Option (Nat × Option Int) := do
  let isSign (c : Char) : Bool := c == '+' || c == '-'
  let r ← readReading? (cs.takeWhile fun c => !isSign c)
  if 23 < r.hours ∨ 59 < r.minutes ∨ 59 < r.seconds then none
  else match cs.dropWhile fun c => !isSign c with
    | [] => if r.leftover then none else some (r.ticks, none)
    | sign :: rest => do
      let offset ← readOffset? (sign == '-') rest
      some (r.ticks, some offset)

/-! ## Stamps -/

/-- Reads a date, or a date and a time with any one character between them. -/
def read? (cs : List Char) : Option Stamp := do
  let length ← dateLength? cs
  let day ← readDate? (cs.take length)
  match cs.drop length with
  | [] => some (.ofDay day none)
  | _ :: time => do
    let (ticks, offset) ← readTime? time
    some (.ofParts day ticks offset)

end TaskSieve.Calendar.Iso
