import TaskSieve.Text.Blank
import TaskSieve.Text.Lower

set_option autoImplicit false

/-! # Fields

The closed set of task attributes that a filter can name, and the kind of value that each one
holds. -/

namespace TaskSieve.Filter

/-- The kind of value that a field holds. -/
inductive Kind where
  | boolean
  | number
  | date
  | string
  | array
deriving DecidableEq, Repr

/-- The name of a kind. -/
def Kind.name : Kind → String
  | .boolean => "boolean"
  | .number => "number"
  | .date => "date"
  | .string => "string"
  | .array => "array"

/-- A task attribute that a filter can name. -/
inductive Field where
  | done
  | priority
  | percentDone
  | dueDate
  | assignees
  | labels
  | created
  | updated
  | title
  | description
deriving DecidableEq, Repr

namespace Field

/-- All fields. -/
def all : List Field :=
  [done, priority, percentDone, dueDate, assignees, labels, created, updated, title, description]

/-- The name of a field in a filter. -/
def name : Field → String
  | done => "done"
  | priority => "priority"
  | percentDone => "percentDone"
  | dueDate => "dueDate"
  | assignees => "assignees"
  | labels => "labels"
  | created => "created"
  | updated => "updated"
  | title => "title"
  | description => "description"

/-- The key of a field in a task payload. -/
def taskKey : Field → String
  | percentDone => "percent_done"
  | dueDate => "due_date"
  | f => f.name

/-- The kind of value that a field holds. -/
def kind : Field → Kind
  | done => .boolean
  | priority | percentDone => .number
  | dueDate | created | updated => .date
  | assignees | labels => .array
  | title | description => .string

/-- The field that a name means, in any letter case and with blanks around it. Both the name in
filters and the key in payloads are known. -/
def resolve? (name : List Char) : Option Field :=
  let key := Text.lower (Text.trim name)
  all.find? fun f => Text.lower f.name.toList == key || f.taskKey.toList == key

end Field

end TaskSieve.Filter
