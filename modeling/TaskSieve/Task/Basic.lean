import TaskSieve.Calendar.Print
import TaskSieve.Schema.Timestamp

set_option autoImplicit false

/-! # Tasks

A task as the task service sends it. The fields that filters and lists use are read into their
types; all other fields are kept as they come. -/

namespace TaskSieve

open Schema

/-- A label on a task. -/
structure Label where
  id : Int
  title : String
  extra : Fields
deriving Repr

/-- A person to whom a task is assigned. -/
structure Person where
  id : Int
  username : String
  name : String
  extra : Fields
deriving Repr

/-- A task. Progress is a fraction of the whole; an absent time stamp is an unset date. -/
structure Task where
  id : Int
  title : String
  description : String
  done : Bool
  priority : Int
  percentDone : Binary64
  dueDate : Option Calendar.Stamp
  created : Option Calendar.Stamp
  updated : Option Calendar.Stamp
  projectId : Option Int
  labels : List Label
  assignees : List Person
  extra : Fields
deriving Repr

/-! ## Reading -/

namespace Label

/-- The keys of a label. -/
def keys : List String := ["id", "title"]

/-- Reads a label. -/
def ofFields (fs : Fields) : Checked Label :=
  Label.mk <$> required fs "id" integer <*> optional fs "title" "" text <*> pure (extras keys fs)

/-- Reads a label from a value. -/
def ofDatum : Datum → Checked Label := record ofFields

end Label

namespace Person

/-- The keys of a person. -/
def keys : List String := ["id", "username", "name"]

/-- Reads a person. -/
def ofFields (fs : Fields) : Checked Person :=
  Person.mk <$> required fs "id" integer <*> optional fs "username" "" text <*>
    optional fs "name" "" text <*> pure (extras keys fs)

/-- Reads a person from a value. -/
def ofDatum : Datum → Checked Person := record ofFields

end Person

namespace Task

/-- The keys of a task. -/
def keys : List String :=
  ["id", "title", "description", "done", "priority", "percent_done", "due_date", "created",
    "updated", "project_id", "labels", "assignees"]

/-- The least priority. -/
def minPriority : Int := 0

/-- The greatest priority. -/
def maxPriority : Int := 5

/-- How unset dates begin. -/
def unsetDate : String := "0001-01-01"

/-- Reads a date that may be unset: null, or a text that begins with the first day of year 1. -/
def date (d : Datum) : Checked (Option Calendar.Stamp) :=
  match d with
  | .text s => if unsetDate.toList.isPrefixOf s.toList then .valid none else nullable timestamp d
  | _ => nullable timestamp d

/-- Reads a list for which null stands when it is empty. -/
def listOrNull {α : Type} (item : Datum → Checked α) : Datum → Checked (List α)
  | .null => .valid []
  | d => list item d

/-- Reads a task. -/
def ofFields (fs : Fields) : Checked Task :=
  Task.mk <$> required fs "id" integer <*> optional fs "title" "" text <*>
    optional fs "description" "" text <*> optional fs "done" false truth <*>
    optional fs "priority" 0 (integerWithin minPriority maxPriority) <*>
    optional fs "percent_done" 0 number <*> optional fs "due_date" none date <*>
    optional fs "created" none date <*> optional fs "updated" none date <*>
    optional fs "project_id" none (nullable integer) <*>
    optional fs "labels" [] (listOrNull Label.ofDatum) <*>
    optional fs "assignees" [] (listOrNull Person.ofDatum) <*> pure (extras keys fs)

/-- Reads a task from a value. -/
def ofDatum : Datum → Checked Task := record ofFields

end Task

/-! ## Writing -/

namespace Label

/-- The fields of a label. -/
def toFields (l : Label) : Fields :=
  [("id", .int l.id), ("title", .text l.title)] ++ l.extra

end Label

namespace Person

/-- The fields of a person. -/
def toFields (p : Person) : Fields :=
  [("id", .int p.id), ("username", .text p.username), ("name", .text p.name)] ++ p.extra

end Person

namespace Task

/-- The fields of a task, with its dates as time stamps. Filters are evaluated on these. -/
def toFields (t : Task) : Fields :=
  [("id", .int t.id), ("title", .text t.title), ("description", .text t.description),
    ("done", .bool t.done), ("priority", .int t.priority), ("percent_done", .num t.percentDone),
    ("due_date", .ofOption .stamp t.dueDate), ("created", .ofOption .stamp t.created),
    ("updated", .ofOption .stamp t.updated), ("project_id", .ofOption .int t.projectId),
    ("labels", .list (t.labels.map fun l => .record l.toFields)),
    ("assignees", .list (t.assignees.map fun p => .record p.toFields))] ++ t.extra

end Task

namespace Datum

mutual

/-- A value as data files can hold it: dates and time stamps are written out, and null stands for a
number that is not finite. -/
def written : Datum → Datum
  | .num x => if x.isFinite then .num x else .null
  | .stamp s => .text s.shortText
  | .day n => .text (Calendar.CivilDate.ofDayNumber n).text
  | .list items => .list (writtenItems items)
  | .record fields => .record (writtenFields fields)
  | d => d

/-- The items of a list, each written out. -/
def writtenItems : List Datum → List Datum
  | [] => []
  | d :: rest => written d :: writtenItems rest

/-- The fields of a record, each written out. -/
def writtenFields : List (String × Datum) → List (String × Datum)
  | [] => []
  | (k, d) :: rest => (k, written d) :: writtenFields rest

end

end Datum

/-- A task as it is shown to a caller: all of it is written out, but the progress stays as it is,
also if it is not finite. -/
def Task.toResponse (t : Task) : Datum :=
  .record (Fields.put (Datum.writtenFields t.toFields) "percent_done" (.num t.percentDone))

end TaskSieve
