import TaskSieve.Listing.Query
import TaskSieve.Saved.Action

set_option autoImplicit false

/-! # Tools

What the service offers, and which calls of it are well formed. A call that names no tool, has an
argument that the tool does not know, or an argument of the wrong type is rejected as a whole. -/

namespace TaskSieve

open Schema
open Schema.Checked (complain)

/-- The tools. -/
inductive Tool where
  | filters
  | listTasks
  | ping
deriving DecidableEq, Repr

namespace Tool

/-- Every tool, in the order of the names. -/
def all : List Tool := [filters, listTasks, ping]

/-- The name of a tool. -/
def name : Tool → String
  | filters => "filters"
  | listTasks => "list_tasks"
  | ping => "ping"

/-- The tool with a name. -/
def ofName? (name : String) : Option Tool := all.find? (·.name == name)

end Tool

/-- A well-formed call of a tool. -/
inductive ToolCall where
  | filters (action : Action) (parameters : Datum)
  | listTasks (arguments : Fields)
  | ping

namespace ToolCall

/-- Reads the name of an action. -/
def actionOf : Datum → Checked Action
  | .text s =>
    match Action.ofName? s with
    | some a => .valid a
    | none => complain .notLiteral
  | _ => complain .notLiteral

/-- Reads parameters: a record, or null. -/
def parametersOf (d : Datum) : Checked Datum :=
  (nullable (record .valid) d).map fun fields => .ofOption .record fields

/-- Reads a call of the tool for saved filters. -/
def filtersOf (fs : Fields) : Checked ToolCall :=
  (fun action parameters _ => ToolCall.filters action parameters) <$>
    required fs "action" actionOf <*> optional fs "parameters" .null parametersOf <*>
    onlyKeys ["action", "parameters"] fs

/-- Reads one argument of a listing, whose bounds are checked later. -/
def listingArgument (key : String) (d : Datum) : Checked Datum :=
  let orNull (item : Datum → Checked Datum) : Checked Datum :=
    (nullable item d).map (Option.getD · .null)
  match key with
  | "page" => (integer d).map .int
  | "per_page" => (integer d).map .int
  | "all_projects" => (truth d).map .bool
  | "done" => orNull fun d => (truth d).map .bool
  | "project_id" => orNull fun d => (integer d).map .int
  | _ => orNull fun d => (text d).map .text

/-- Reads a call of the tool for listings. -/
def listingOf (fs : Fields) : Checked ToolCall :=
  let arguments := Checked.each (fun (f : String × Datum) =>
    (listingArgument f.1 f.2).map fun d => (f.1, d)) fs
  (fun arguments _ => ToolCall.listTasks arguments) <$> arguments <*>
    onlyKeys Listing.Query.keys fs

/-- The call of a tool with arguments, if it is well formed. -/
def of? (tool : String) (arguments : Fields) : Option ToolCall :=
  match Tool.ofName? tool with
  | some .filters => (filtersOf arguments).value?
  | some .listTasks => (listingOf arguments).value?
  | some .ping => if arguments.isEmpty then some .ping else none
  | none => none

end ToolCall

end TaskSieve
