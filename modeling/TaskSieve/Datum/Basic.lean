import TaskSieve.Calendar.Stamp
import TaskSieve.Number.Binary64
import TaskSieve.Number.Overlong

set_option autoImplicit false

/-! # Data

The values that task payloads, saved files, settings and tool arguments are made of. A record
keeps its fields in the order in which they first came. An integer may be too long to be written. -/

namespace TaskSieve

/-- A value of a payload. Dates and time stamps occur beside the values of a data file, since
tasks may carry them unwritten. -/
inductive Datum where
  | null
  | bool (value : Bool)
  | int (value : Int)
  | num (value : Binary64)
  | text (value : String)
  | stamp (value : Calendar.Stamp)
  | day (number : Nat)
  | list (items : List Datum)
  | record (fields : List (String × Datum))
deriving Repr, Inhabited

/-- The fields of a record, in order. -/
abbrev Fields := List (String × Datum)

namespace Fields

/-- The value of a field. -/
def get? (fields : Fields) (key : String) : Option Datum :=
  fields.lookup key

/-- Whether a field is present. -/
def has (fields : Fields) (key : String) : Bool :=
  fields.any (·.1 == key)

/-- Sets a field: in its place if it is present, at the end if it is new. -/
def put (fields : Fields) (key : String) (value : Datum) : Fields :=
  match fields with
  | [] => [(key, value)]
  | (k, v) :: rest => if k == key then (k, value) :: rest else (k, v) :: put rest key value

/-- Fields set one after another: each key stands where it first came and has the value that came
last. -/
def ofList (entries : List (String × Datum)) : Fields :=
  entries.foldl (fun fields e => fields.put e.1 e.2) []

/-- The fields without one key. -/
def erase (fields : Fields) (key : String) : Fields :=
  fields.filter (·.1 != key)

end Fields

namespace Datum

/-- Whether the value is null. -/
def isNull : Datum → Bool
  | .null => true
  | _ => false

/-- Whether the value is null, false, zero or empty. -/
def isEmpty : Datum → Bool
  | .null => true
  | .bool b => !b
  | .int n => n == 0
  | .num x => Binary64.eq x 0
  | .text s => s == ""
  | .list items => items.isEmpty
  | .record fields => fields.isEmpty
  | .stamp _ | .day _ => false

/-- The text of a text value. -/
def text? : Datum → Option String
  | .text s => some s
  | _ => none

/-- The fields of a record. -/
def fields? : Datum → Option Fields
  | .record fields => some fields
  | _ => none

/-- A value that may be absent, with null in its place. -/
def ofOption {α : Type} (f : α → Datum) (value : Option α) : Datum :=
  (value.map f).getD .null

/-- A list of texts. -/
def texts (items : List String) : Datum :=
  .list (items.map .text)

mutual

/-- What keeps a value from being written: an integer in it with too many digits. -/
def overlong? : Datum → Option Overlong
  | .int n => Overlong.ofInt? n
  | .list items => overlongItems? items
  | .record fields => overlongFields? fields
  | .null | .bool _ | .num _ | .text _ | .stamp _ | .day _ => none

/-- What keeps the items of a list from being written. -/
def overlongItems? : List Datum → Option Overlong
  | [] => none
  | d :: rest => (overlong? d).or (overlongItems? rest)

/-- What keeps the fields of a record from being written. -/
def overlongFields? : List (String × Datum) → Option Overlong
  | [] => none
  | (_, d) :: rest => (overlong? d).or (overlongFields? rest)

end

/-- A list can be written if each of its items can. -/
theorem overlongItems?_eq_none_iff {items : List Datum} :
    overlongItems? items = none ↔ ∀ d ∈ items, d.overlong? = none := by
  induction items with
  | nil => simp [overlongItems?]
  | cons d rest ih => simp [overlongItems?, ih]

/-- A record can be written if each of its values can. -/
theorem overlongFields?_eq_none_iff {fields : Fields} :
    overlongFields? fields = none ↔ ∀ f ∈ fields, f.2.overlong? = none := by
  induction fields with
  | nil => simp [overlongFields?]
  | cons f rest ih => simp [overlongFields?, ih]

end Datum

end TaskSieve
