import TaskSieve.Datum.Text
import TaskSieve.Filter.Expr
import TaskSieve.Filter.Moment
import TaskSieve.Number.Decimal

set_option autoImplicit false

/-! # Coercions

Values of filters and of tasks are compared after a coercion to the kind of the field: a truth
value, a number, a moment, a text, or an id. A value that has no such form is none; the faults are
those of `Fault`. Filter values are coerced as the data they stand for. -/

namespace TaskSieve.Filter

open TaskSieve.Calendar

/-- A filter value as data. -/
def Scalar.toDatum : Scalar → Datum
  | .bool b => .bool b
  | .int n => .int n
  | .num x => .num x
  | .text s => .text s

namespace Coercion

/-- The truth value of a value: its own, or the one that a text names. -/
def boolean : Datum → Option Bool
  | .bool b => some b
  | .text s =>
    let word := Text.lower (Text.trim s.toList)
    if word = "true".toList then some true
    else if word = "false".toList then some false
    else none
  | _ => none

/-- The number of a value: its own, or the one that a text writes. Truth values are no
numbers. -/
def number : Datum → Except Fault (Option Binary64)
  | .int n =>
    match Binary64.ofInt? n with
    | some x => .ok (some x)
    | none => .error .numberTooLarge
  | .num x => .ok (some x)
  | .text s => .ok (Decimal.numberOf? (Text.trim s.toList))
  | _ => .ok none

/-- Rounds a percentage to six places. -/
def roundPercent (x : Binary64) : Binary64 := x.roundPlaces 6

/-- The percentage that a filter value means: a number strictly between 0 and 1 is a fraction of
the whole. -/
def percent (d : Datum) : Except Fault (Option Binary64) := do
  let x ← number d
  .ok <| x.map fun x => roundPercent (if 0 < x ∧ x < 1 then x * 100 else x)

/-- The percentage of a task: payloads keep a fraction of the whole under `percent_done`, other
records a percentage. -/
def taskPercent (isFraction : Bool) (d : Datum) : Except Fault (Option Binary64) := do
  let x ← number d
  .ok <| x.map fun x => roundPercent (if isFraction then x * 100 else x)

/-- Whether a value is a date without a time. -/
def isDateOnly : Datum → Bool
  | .day _ => true
  | .text s => Moment.isDateOnly s.toList
  | _ => false

/-- The moment of a value. -/
def moment (now : Stamp) : Datum → Except Fault (Option Stamp)
  | .stamp s => .ok (Moment.ofStamp s)
  | .day n => .ok (Moment.ofDay n)
  | .text s => Moment.ofText now s.toList
  | _ => .ok none

/-- The text that a value of a task is compared as. -/
def taskText (d : Datum) : Except Fault String := d.toText.mapError .overlong

/-- The text that a filter value is compared as. -/
def text : Scalar → Except Fault String
  | .bool b => .ok (if b then "true" else "false")
  | v => v.toDatum.toText.mapError .overlong

/-- The values of a list as they are shown in parentheses, a single one followed by a comma. -/
def parenthesized : List Scalar → String
  | [v] => "(" ++ v.toDatum.inner ++ ",)"
  | vs => "(" ++ ", ".intercalate (vs.map fun v => v.toDatum.inner) ++ ")"

/-- The text that a list of filter values is compared as. -/
def listText (vs : List Scalar) : Except Fault String :=
  (Overlong.guard (Datum.overlongItems? (vs.map Scalar.toDatum)) (parenthesized vs)).mapError
    .overlong

/-! ## Ids -/

/-- An id of a label or a person: a number, or a text that is none. -/
inductive Id where
  | number (n : Int)
  | name (s : String)
deriving DecidableEq, Repr

/-- What keeps a text from being read as an integer: its digits, behind at most one sign, are too
many. They are counted up to the first character that is none. -/
def overlongInteger? (cs : List Char) : Option Overlong :=
  Overlong.ofDigits? ((Decimal.takeSign cs).2.takeWhile Text.isDigit).length

/-- The id that a text writes. A text of digits and leading minus signs has to be a number. -/
def textId (s : String) : Except Fault (Option Id) :=
  let cs := Text.trim s.toList
  if cs.isEmpty then .ok none
  else
    let digits := cs.dropWhile (· == '-')
    if digits ≠ [] ∧ digits.all Text.isFigure then
      match overlongInteger? cs, Decimal.integerOf? cs with
      | some o, _ => .error (.overlong o)
      | none, some n => .ok (some (.number n))
      | none, none => .error (.malformedId (String.ofList cs))
    else .ok (some (.name (String.ofList cs)))

/-- The id that a plain value is. -/
def plainId : Datum → Except Fault (Option Id)
  | .int n => .ok (some (.number n))
  | .num x => .ok (x.toInt?.map .number)
  | .text s => textId s
  | _ => .ok none

/-- The id of a value: of a record the one under the key `id`, else its own. -/
def id : Datum → Except Fault (Option Id)
  | .record fields => plainId ((Fields.get? fields "id").getD .null)
  | d => plainId d

/-- The ids of some values; those without one do not count. -/
def ids (items : List Datum) : Except Fault (List Id) := do
  let found ← items.mapM id
  .ok (found.filterMap fun i => i)

/-- The items of a task value: of a list its own, any other value is its only item. -/
def items : Datum → List Datum
  | .list items => items
  | d => [d]

end Coercion

end TaskSieve.Filter
