import TaskSieve.Calendar.Print
import TaskSieve.Datum.Basic
import TaskSieve.Number.Layout
import TaskSieve.Text.Quoted

set_option autoImplicit false

/-! # The text of a value

A task field that is compared as text may hold any value. Texts stand for themselves, other values
are written out: truth values and null by their capitalised names, lists in brackets and records in
braces, where texts are quoted and dates are expanded into their parts. -/

namespace TaskSieve

/-- The name of a truth value. -/
def truthName (b : Bool) : String := if b then "True" else "False"

namespace Datum

mutual

/-- A value as it is shown inside a list or a record. -/
def inner : Datum → String
  | .null => "None"
  | .bool b => truthName b
  | .int n => integerText n
  | .num x => x.text
  | .text s => Text.quoted s
  | .stamp t => t.expandedText
  | .day n => (Calendar.CivilDate.ofDayNumber n).expandedText
  | .list items => "[" ++ ", ".intercalate (innerItems items) ++ "]"
  | .record fields => "\x7b" ++ ", ".intercalate (innerFields fields) ++ "\x7d"

/-- The values of a list as they are shown. -/
def innerItems : List Datum → List String
  | [] => []
  | d :: rest => inner d :: innerItems rest

/-- The fields of a record as they are shown. -/
def innerFields : List (String × Datum) → List String
  | [] => []
  | (k, d) :: rest => (Text.quoted k ++ ": " ++ inner d) :: innerFields rest

end

/-- The text of a value, however many digits its integers have. -/
def asText : Datum → String
  | .text s => s
  | .stamp t => t.spacedText
  | .day n => (Calendar.CivilDate.ofDayNumber n).text
  | d => d.inner

/-- The text of a value, if it can be written. -/
def toText (d : Datum) : Except Overlong String :=
  Overlong.guard d.overlong? d.asText

end Datum

end TaskSieve
