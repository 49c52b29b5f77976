import TaskSieve.Calendar.Print
import TaskSieve.Datum.Basic
import TaskSieve.Text.Split
import TaskSieve.Number.Layout
import TaskSieve.Text.Quoted

set_option autoImplicit false

/-! # Writing JSON

Saved files are written with one item to a line and two blanks for each level. Characters beyond
ASCII are written as code units in hexadecimal. An integer of too many digits cannot be written. -/

namespace TaskSieve.Datum.Writer

/-- A code unit as an escape. -/
def unitEscape (n : Nat) : List Char := '\\' :: 'u' :: Text.hex 4 n

/-- A character inside a text. -/
def charText (c : Char) : List Char :=
  if c = '"' then ['\\', '"']
  else if c = '\\' then ['\\', '\\']
  else if c = '\n' then ['\\', 'n']
  else if c = '\r' then ['\\', 'r']
  else if c = '\t' then ['\\', 't']
  else if c = '\x08' then ['\\', 'b']
  else if c = '\x0c' then ['\\', 'f']
  else if 0x20 ≤ c.toNat ∧ c.toNat < 0x7F then [c]
  else if c.toNat < 0x10000 then unitEscape c.toNat
  else
    let n := c.toNat - 0x10000
    unitEscape (0xD800 + n / 0x400) ++ unitEscape (0xDC00 + n % 0x400)

/-- A text in quotes. -/
def stringText (s : String) : List Char :=
  '"' :: s.toList.flatMap charText ++ ['"']

/-- A number; what is not finite is written by name. -/
def numberText (x : Binary64) : String :=
  match x with
  | .nan => "NaN"
  | .infinite s => if s then "-Infinity" else "Infinity"
  | x => x.text

/-- A line end and the blanks of a level. -/
def lineStart (level : Nat) : List Char := '\n' :: List.replicate (2 * level) ' '

mutual

/-- A value at a level. -/
def valueText (level : Nat) : Datum → List Char
  | .null => "null".toList
  | .bool b => (if b then "true" else "false").toList
  | .int n => (integerText n).toList
  | .num x => (numberText x).toList
  | .text s => stringText s
  | .stamp t => stringText t.shortText
  | .day n => stringText (Calendar.CivilDate.ofDayNumber n).text
  | .list items => match items with
    | [] => ['[', ']']
    | d :: rest => '[' :: lineStart (level + 1) ++ valueText (level + 1) d ++
        itemsText (level + 1) rest ++ lineStart level ++ [']']
  | .record fields => match fields with
    | [] => ['\x7b', '\x7d']
    | (k, d) :: rest => '\x7b' :: lineStart (level + 1) ++ stringText k ++ [':', ' '] ++
        valueText (level + 1) d ++ fieldsText (level + 1) rest ++ lineStart level ++ ['\x7d']

/-- The later items of a list. -/
def itemsText (level : Nat) : List Datum → List Char
  | [] => []
  | d :: rest => ',' :: lineStart level ++ valueText level d ++ itemsText level rest

/-- The later fields of a record. -/
def fieldsText (level : Nat) : List (String × Datum) → List Char
  | [] => []
  | (k, d) :: rest => ',' :: lineStart level ++ stringText k ++ [':', ' '] ++ valueText level d ++
      fieldsText level rest

end

end TaskSieve.Datum.Writer

namespace TaskSieve.Datum

/-- A value as a JSON text. -/
def write (d : Datum) : Except Overlong String :=
  Overlong.guard d.overlong? (String.ofList (Writer.valueText 0 d))

/-- A value as a JSON text on one line, however many digits its integers have. Line ends stand only
between values, with blanks after them; one blank is left after each comma. -/
def writeLine (d : Datum) : String :=
  let lines := Text.splitAtAll (· == '\n') (Writer.valueText 0 d)
  String.ofList (lines.flatMap fun line =>
    line.dropWhile (· == ' ') ++ if line.getLast? = some ',' then [' '] else [])

end TaskSieve.Datum
