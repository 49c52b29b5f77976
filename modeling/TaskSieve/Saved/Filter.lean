import TaskSieve.Calendar.Print
import TaskSieve.Schema.Timestamp

set_option autoImplicit false

/-! # Saved filters

A filter text that is kept under a name. -/

namespace TaskSieve

open Schema

/-- A named filter, of one project or of all. -/
structure SavedFilter where
  id : String
  name : String
  description : Option String
  filter : String
  projectId : Option Int
  isGlobal : Bool
  created : Calendar.Stamp
  updated : Calendar.Stamp
deriving DecidableEq, Repr

/-- What a write takes from outside: the id for a new filter, and the time. -/
structure Ticket where
  id : String
  time : Calendar.Stamp
deriving DecidableEq, Repr

namespace SavedFilter

/-- Reads a saved filter. Without an id or a time it gets those of the ticket; unknown fields do
not count. -/
def ofFields (ticket : Ticket) (fs : Fields) : Checked SavedFilter :=
  SavedFilter.mk <$> optional fs "id" ticket.id text <*> required fs "name" filledText <*>
    optional fs "description" none (nullable text) <*> required fs "filter" filledText <*>
    optional fs "project_id" none (nullable integer) <*> optional fs "is_global" false truth <*>
    optional fs "created" ticket.time timestamp <*> optional fs "updated" ticket.time timestamp

/-- Reads a saved filter from a value. -/
def ofDatum (ticket : Ticket) : Datum → Checked SavedFilter := record (ofFields ticket)

/-- The fields of a saved filter. -/
def toFields (s : SavedFilter) : Fields :=
  [("id", .text s.id), ("name", .text s.name), ("description", .ofOption .text s.description),
    ("filter", .text s.filter), ("project_id", .ofOption .int s.projectId),
    ("is_global", .bool s.isGlobal), ("created", .stamp s.created), ("updated", .stamp s.updated)]

/-- A saved filter as it is shown and as it is written to a file, its times written out. -/
def toDatum (s : SavedFilter) : Datum :=
  .record [("id", .text s.id), ("name", .text s.name),
    ("description", .ofOption .text s.description), ("filter", .text s.filter),
    ("project_id", .ofOption .int s.projectId), ("is_global", .bool s.isGlobal),
    ("created", .text s.created.shortText), ("updated", .text s.updated.shortText)]

end SavedFilter

end TaskSieve
