import TaskSieve.Calendar.Iso
import TaskSieve.Schema.Value

set_option autoImplicit false

/-! # Time stamps in a schema

A time stamp in a payload is a text `YYYY-MM-DD`, one of `T`, `t`, blank and underscore, and
`HH:MM[:SS[.fraction]]`, with `Z` or an offset of hours and minutes at the end. A date without a
time is its midnight. Numbers, also in a text, count the seconds, or if they are large the
milliseconds, since the start of 1970. -/

namespace TaskSieve.Schema.Timestamp

open TaskSieve.Calendar
open TaskSieve.Calendar.Iso (digits?)

/-! ## Texts -/

/-- Splits off one character of a class. -/
def skip? (p : Char → Bool) : List Char → Option (List Char)
  | c :: rest => if p c then some rest else none
  | [] => none

/-- Splits off a date and gives its day number. -/
def date? (cs : List Char) : Option (Nat × List Char) := do
  let (year, cs) ← digits? 4 cs
  let cs ← skip? (· == '-') cs
  let (month, cs) ← digits? 2 cs
  let cs ← skip? (· == '-') cs
  let (day, rest) ← digits? 2 cs
  let date : CivilDate := ⟨year, month, day⟩
  if date.isValid then some (date.dayNumber, rest) else none

/-- The seconds and the fraction, in microseconds; further digits of the fraction do not count. -/
def seconds? (cs : List Char) : Option (Nat × List Char) := do
  let (seconds, rest) ← digits? 2 cs
  if 59 < seconds then none
  else match rest with
    | c :: tail =>
      if c = '.' ∨ c = ',' then
        let ds := tail.takeWhile Char.isDigit
        let shown := ds.take 6
        if ds.isEmpty then none
        else
          let micros := Text.digitsValue shown * Nat.pow 10 (6 - shown.length)
          some (seconds * 1000000 + micros, tail.dropWhile Char.isDigit)
      else some (seconds * 1000000, rest)
    | [] => some (seconds * 1000000, [])

/-- Splits off a time of day in microseconds. -/
def time? (cs : List Char) : Option (Nat × List Char) := do
  let (hours, cs) ← digits? 2 cs
  let cs ← skip? (· == ':') cs
  let (minutes, rest) ← digits? 2 cs
  if 23 < hours ∨ 59 < minutes then none
  else
    let whole := (hours * 60 + minutes) * 60000000
    match rest with
    | ':' :: tail => do
      let (micros, rest) ← seconds? tail
      some (whole + micros, rest)
    | rest => some (whole, rest)

/-- The offset that ends a time stamp. -/
def offset? : List Char → Option (Option Int)
  | [] => some none
  | ['Z'] => some (some 0)
  | ['z'] => some (some 0)
  | sign :: cs => do
    let negative ←
      if sign = '+' then some false
      else if sign = '-' ∨ sign = '−' then some true
      else none
    let (hours, cs) ← digits? 2 cs
    let (minutes, rest) ← digits? 2 (match cs with
      | ':' :: tail => tail
      | tail => tail)
    if !rest.isEmpty || 23 < hours || 59 < minutes then none
    else
      let size : Int := (hours * 60 + minutes : Nat) * minuteTicks
      some (some (if negative then -size else size))

/-- Whether a character may stand between date and time. -/
def isSeparator (c : Char) : Bool := c == 'T' || c == 't' || c == ' ' || c == '_'

/-- The stamp that a text writes as date and time. -/
def written? (cs : List Char) : Option Stamp := do
  let (day, rest) ← date? cs
  match rest with
  | [] => some (.ofDay day none)
  | c :: rest =>
    if !isSeparator c then none
    else
      let (ticks, rest) ← time? rest
      let offset ← offset? rest
      some (.ofParts day ticks offset)

/-! ## Numbers -/

/-- The day number of the first day of 1970. -/
def epochDay : Nat := 719162

/-- The magnitude above which a number counts milliseconds. -/
def secondsLimit : Nat := 20000000000

/-- The microseconds in the unit that a number counts. -/
def unitMicros (q : Rat) : Nat :=
  if (secondsLimit : Rat) < q ∨ q < -(secondsLimit : Rat) then 1000 else 1000000

/-- The stamp in universal time so many microseconds after the start of 1970. -/
def afterEpoch? (micros : Int) : Option Stamp :=
  let ticks := epochDay * dayTicks + micros
  if Stamp.inRange ticks then some ⟨ticks, some 0⟩ else none

/-- The stamp that an integer counts. -/
def ofInt? (n : Int) : Option Stamp :=
  afterEpoch? (n * unitMicros n)

/-- The stamp that a number counts. What goes beyond whole units is counted in microseconds and
rounded to the nearest one, a half upwards. -/
def ofNumber? (x : Binary64) : Option Stamp :=
  x.toRat?.bind fun q =>
    let unit := unitMicros q
    let part := Binary64.ofRat (q - q.floor) * (unit : Binary64)
    afterEpoch? (q.floor * unit + (part.toRat?.getD 0 + 1 / 2).floor)

/-- The stamp that a text of digits counts, with a sign and a fraction. -/
def ofDigits? (cs : List Char) : Option Stamp :=
  let (negative, body) := Decimal.takeSign cs
  let whole := body.takeWhile Char.isDigit
  let signed (n : Int) : Int := if negative then -n else n
  match body.dropWhile Char.isDigit with
  | [] => if whole.isEmpty then none else ofInt? (signed (Text.digitsValue whole))
  | '.' :: fraction =>
    let digits := whole ++ fraction
    if digits.isEmpty || !fraction.all Char.isDigit then none
    else ofNumber? (Decimal.mk negative (Text.digitsValue digits) (-fraction.length)).toBinary64
  | _ => none

/-- The stamp that a text writes. -/
def ofText? (cs : List Char) : Option Stamp :=
  (written? cs).or (ofDigits? cs)

end TaskSieve.Schema.Timestamp

namespace TaskSieve.Schema

open Checked (complain)

/-- Reads a time stamp. An integer beyond the largest floating-point number is not even a number
here. -/
def timestamp : Datum → Checked Calendar.Stamp
  | .stamp s => .valid s
  | .day n => .valid (.ofDay n none)
  | .text s =>
    match Timestamp.ofText? s.toList with
    | some t => .valid t
    | none => complain .timestampForm
  | .int n =>
    if (Binary64.ofInt? n).isNone then complain .notTimestamp
    else match Timestamp.ofInt? n with
      | some t => .valid t
      | none => complain .timestampForm
  | .num x =>
    match Timestamp.ofNumber? x with
    | some t => .valid t
    | none => complain .timestampForm
  | _ => complain .notTimestamp

end TaskSieve.Schema
