import TaskSieve.Calendar.Iso
import TaskSieve.Calendar.Stamp
import TaskSieve.Filter.Fault
import TaskSieve.Text.Blank
import TaskSieve.Text.Lower

set_option autoImplicit false

/-! # Moments

A date in a filter is a date, a time stamp, or a moment told from now: `now`, or `now` plus or
minus a number of seconds, minutes, hours, days or weeks. The number is an integer, so it cannot be
read if it has too many digits. Absolute times without an offset are read as universal time. Dates
in year 1 stand for no date. -/

namespace TaskSieve.Filter.Moment

open TaskSieve.Calendar

/-- Whether a text is a date without a time: `YYYY-MM-DD` in digits of any script. -/
def isDateOnly (cs : List Char) : Bool :=
  match Text.trim cs with
  | [a, b, c, d, '-', e, f, '-', g, h] => [a, b, c, d, e, f, g, h].all Text.isDigit
  | _ => false

/-! ## Moments told from now -/

/-- A distance from now: its sign, the digits of its amount, and the letter of its unit. -/
structure Distance where
  negative : Bool
  digits : List Char
  unit : Char
deriving DecidableEq, Repr

/-- The number that the digits of a distance write. -/
def Distance.amount (d : Distance) : Nat := Text.digitsValue d.digits

/-- The letters of the units. The long s is a form of the letter s, so it is taken for a unit as
well. -/
def isUnitLetter (c : Char) : Bool :=
  ("smhdwSMHDW".toList.contains c) || c == 'ſ'

/-- Reads the distance after `now`; no text at all is no distance. -/
def distance? (cs : List Char) : Option (Option Distance) :=
  match cs with
  | [] => some none
  | _ =>
    match cs.dropWhile Text.isBlank with
    | [] => none
    | sign :: rest =>
      let body := rest.dropWhile Text.isBlank
      let digits := body.takeWhile Text.isDigit
      match (body.dropWhile Text.isDigit).dropWhile Text.isBlank with
      | [unit] =>
        if (sign = '+' ∨ sign = '-') ∧ digits ≠ [] ∧ isUnitLetter unit = true then
          some (some ⟨sign == '-', digits, unit⟩)
        else none
      | _ => none

/-- Reads a moment told from now. -/
def relative? (cs : List Char) : Option (Option Distance) :=
  match cs with
  | a :: b :: c :: rest =>
    if [a, b, c].map Char.toLower = ['n', 'o', 'w'] then distance? rest else none
  | _ => none

/-- The seconds in a unit. -/
def unitSeconds (unit : Char) : Except Fault Nat :=
  match unit.toLower with
  | 's' => .ok 1
  | 'm' => .ok 60
  | 'h' => .ok 3600
  | 'd' => .ok 86400
  | 'w' => .ok 604800
  | c => .error (.unknownUnit c)

/-- The stamp at a distance from now; none beyond the years 1 to 9999. The amount has to be an
integer that can be read. -/
def Distance.from? (now : Stamp) (d : Distance) : Except Fault (Option Stamp) := do
  let amount ← (Overlong.guard (Overlong.ofDigits? d.digits.length) d.amount).mapError .overlong
  let unit ← unitSeconds d.unit
  let ticks : Int := (amount * unit : Nat) * secondTicks
  .ok (now.shift? (if d.negative then -ticks else ticks))

/-! ## All moments -/

/-- The moment of a stamp, in universal time. -/
def ofStamp (s : Stamp) : Option Stamp :=
  if s.date.year = 1 then none else s.toUniversal?

/-- The moment at which a day begins. -/
def ofDay (number : Nat) : Option Stamp :=
  ofStamp (.ofDay number none)

/-- The text with its letters `Z`, which stand for universal time, written as offsets. -/
def spellOffsets (cs : List Char) : List Char :=
  cs.flatMap fun c => if c = 'Z' then "+00:00".toList else [c]

/-- The moment that a text writes. Texts that begin with the first day of year 1 are unset
dates. -/
def ofText (now : Stamp) (cs : List Char) : Except Fault (Option Stamp) :=
  let text := Text.trim cs
  if text.isEmpty || "0001-01-01".toList.isPrefixOf text then .ok none
  else match relative? text with
    | some none => .ok (some now)
    | some (some d) => d.from? now
    | none => .ok ((Iso.read? (spellOffsets text)).bind ofStamp)

end TaskSieve.Filter.Moment
