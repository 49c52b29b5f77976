import TaskSieve.Saved.Store
import TaskSieve.Schema.Value

set_option autoImplicit false

/-! # What a listing asks for

A listing asks for one page of tasks: of a project or of all, with a search and a sort, and either
selected by a filter or only by whether they are done. The filter is given as a text or as the id of
a saved one; a text that is not blank wins. -/

namespace TaskSieve.Listing

open Schema

/-- The arguments of a listing. -/
structure Query where
  filter : Option String := none
  filterId : Option String := none
  page : Int := 1
  perPage : Int := 50
  sort : Option String := none
  search : Option String := none
  allProjects : Bool := false
  done : Option Bool := none
  project : Option Int := none
deriving DecidableEq, Repr

namespace Query

/-- The names of the arguments. -/
def keys : List String :=
  ["filter", "filter_id", "page", "per_page", "sort", "search", "all_projects", "done",
    "project_id"]

/-- Reads the arguments of a listing. -/
def ofFields (fs : Fields) : Checked Query :=
  Query.mk <$> optional fs "filter" none (nullable text)
    <*> optional fs "filter_id" none (nullable text)
    <*> optional fs "page" 1 (integerFrom 1)
    <*> optional fs "per_page" 50 (integerWithin 1 50)
    <*> optional fs "sort" none (nullable text)
    <*> optional fs "search" none (nullable text)
    <*> optional fs "all_projects" false truth
    <*> optional fs "done" none (nullable truth)
    <*> optional fs "project_id" none (nullable (integerFrom 1))

/-- The project to list; none for all projects. -/
def scope (q : Query) : Option Int := if q.allProjects then none else q.project

/-- Whether a filter is asked for at all. -/
def wantsFilter (q : Query) : Bool := q.filter.any (· != "") || q.filterId.any (· != "")

end Query

/-- Where the filter of a listing comes from. -/
inductive FilterSource where
  | none
  | inline (text : String)
  | saved (id text : String)
deriving DecidableEq, Repr

namespace FilterSource

/-- The text of the filter, if there is one. -/
def text? : FilterSource → Option String
  | .none => Option.none
  | inline text => some text
  | saved _ text => some text

/-- The id of the saved filter, if it is one. -/
def id? : FilterSource → Option String
  | saved id _ => some id
  | _ => Option.none

/-- How a source is named. -/
def name : FilterSource → String
  | .none => "none"
  | inline _ => "inline"
  | saved _ _ => "saved"

/-- Chooses between a text and a saved filter. A blank text counts only if there is no saved
filter. -/
def choose (inlineText : Option String) (saved : Option SavedFilter) : FilterSource :=
  match inlineText, saved with
  | some t, some f => if (Text.trim t.toList).isEmpty then .saved f.id f.filter else .inline t
  | some t, Option.none => .inline t
  | Option.none, some f => .saved f.id f.filter
  | Option.none, Option.none => .none

end FilterSource

end TaskSieve.Listing
