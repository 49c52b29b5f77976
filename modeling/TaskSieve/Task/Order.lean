import TaskSieve.Datum.Order
import TaskSieve.Sorting
import TaskSieve.Task.Basic
import TaskSieve.Text.Lower
import TaskSieve.Text.Split

set_option autoImplicit false

/-! # Task order

A sort text names fields and directions, the most significant first: `priority.desc,due_date`. A
list of tasks is ordered lexicographically by these keys, texts without regard to case; a task
without a value comes after those with one in either direction, and tasks that are equal on every
key keep their order. -/

namespace TaskSieve

/-- A field that tasks can be sorted by. -/
inductive SortField where
  | id
  | title
  | description
  | done
  | priority
  | percentDone
  | dueDate
  | created
  | updated
  | projectId
  | position
deriving DecidableEq, Repr

namespace SortField

/-- The key of a field in task payloads. -/
def key : SortField → String
  | id => "id"
  | title => "title"
  | description => "description"
  | done => "done"
  | priority => "priority"
  | percentDone => "percent_done"
  | dueDate => "due_date"
  | created => "created"
  | updated => "updated"
  | projectId => "project_id"
  | position => "position"

/-- All fields, in the order of their keys. -/
def all : List SortField :=
  [created, description, done, dueDate, id, percentDone, position, priority, projectId, title,
    updated]

/-- The field with a spelling: its key, or the name in filters where that differs. -/
def ofText? (s : String) : Option SortField :=
  if s = "percentDone" then some percentDone
  else if s = "dueDate" then some dueDate
  else all.find? (·.key == s)

end SortField

/-- A field and a direction to sort by. -/
structure SortKey where
  field : SortField
  descending : Bool
deriving DecidableEq, Repr

/-- What is wrong with a sort text. -/
inductive SortError where
  | unknownField (name : String)
  | unknownDirection (direction name : String)
deriving DecidableEq, Repr

/-- The error in words. -/
def SortError.message : SortError → String
  | unknownField name => "Unknown sort field '" ++ name ++ "'; expected one of: " ++
      ", ".intercalate (SortField.all.map SortField.key)
  | unknownDirection direction name => "Unknown sort direction '" ++ direction ++ "' for field '" ++
      name ++ "'; use asc or desc"

namespace SortKey

/-- The spelling of the direction. -/
def direction (k : SortKey) : String := if k.descending then "desc" else "asc"

/-- Reads a field and an optional direction, which are separated by a point. -/
def ofEntry (entry : List Char) : Except SortError SortKey :=
  let name := entry.takeWhile (· != '.')
  let word := Text.lower (Text.trim ((entry.dropWhile (· != '.')).drop 1))
  match SortField.ofText? (String.ofList (Text.trim name)) with
  | none => .error (.unknownField (String.ofList name))
  | some field =>
    if word.isEmpty || word == "asc".toList then .ok ⟨field, false⟩
    else if word == "desc".toList then .ok ⟨field, true⟩
    else .error (.unknownDirection (String.ofList word) (String.ofList name))

/-- Reads a sort text; blank entries do not count. -/
def ofText (s : String) : Except SortError (List SortKey) :=
  let entries := (Text.splitAtAll (· == ',') s.toList).map Text.trim
  (entries.filter fun e => !e.isEmpty).mapM ofEntry

end SortKey

/-! ## Sorting tasks -/

namespace SortKey

/-- The value that a task is sorted by, unless it is null: a text in lower case, any other value as
it is. -/
def value? (k : SortKey) (t : Task) : Option Datum :=
  match Fields.get? t.toFields k.field.key with
  | none => none
  | some .null => none
  | some (.text s) => some (.text (Text.lowerString s))
  | some d => some d

/-- Sorts tasks by one key, those without a value last; none if two values that are looked at have
no order. -/
def sort? (k : SortKey) (tasks : List Task) : Option (List Task) :=
  let present := tasks.filterMap fun t => (k.value? t).map fun d => (d, t)
  let missing := tasks.filter fun t => (k.value? t).isNone
  let below (a b : Datum × Task) : Option Bool := Datum.below? a.1 b.1
  let sorted := if k.descending then Sorting.sortDescending? below present
    else Sorting.sort? below present
  sorted.map fun pairs => pairs.map Prod.snd ++ missing

end SortKey

/-- The tasks ordered by the keys: sorted by the least significant key first, and by the most
significant one last. -/
def Task.sortBy? (keys : List SortKey) (tasks : List Task) : Option (List Task) :=
  keys.foldrM SortKey.sort? tasks

end TaskSieve
