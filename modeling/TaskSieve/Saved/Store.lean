import TaskSieve.Saved.Argument
import TaskSieve.Saved.Filter

set_option autoImplicit false

/-! # Stores of saved filters

The saved filters of one session, in the order in which their ids first came. Each id occurs once;
adding a filter and changing one refuse a name that another filter has. -/

namespace TaskSieve

open Schema

/-- The saved filters of one session. -/
abbrev Store := List SavedFilter

/-- Why a store refuses a change. -/
inductive StoreError where
  | notFound (id : String)
  | duplicateName (name : String)
  | fixedFields (names : List String)
  | invalid (issues : List Issue)
deriving DecidableEq, Repr

namespace StoreError

/-- The error in words. -/
def message : StoreError → String
  | notFound id => "Filter with id " ++ id ++ " not found"
  | duplicateName name => "Filter with name \"" ++ name ++ "\" already exists"
  | fixedFields names => "Cannot update fields: " ++ ", ".intercalate names
  | invalid _ => "Invalid saved filter"

end StoreError

namespace Store

/-- The filter with an id. -/
def get? (store : Store) (id : String) : Option SavedFilter :=
  store.find? (·.id == id)

/-- The first filter with a name. -/
def findByName? (store : Store) (name : String) : Option SavedFilter :=
  store.find? (·.name == name)

/-- Whether a filter other than the one with the id `except` has a name. -/
def nameTaken (store : Store) (name : String) (except : Option String) : Bool :=
  store.any fun s => s.name == name && some s.id != except

/-- Puts a filter in the place of the one with its id, or at the end. -/
def put : Store → SavedFilter → Store
  | [], s => [s]
  | t :: rest, s => if t.id = s.id then s :: rest else t :: put rest s

/-- The store without the filter with an id. -/
def erase (store : Store) (id : String) : Store :=
  store.filter (·.id != id)

/-! ## Changes -/

/-- Whether a text, if there is one, is a name that a filter, other than the one excepted, has. -/
def clashes (store : Store) (name : Option String) (except : Option String) : Option String :=
  name.filter fun name => store.nameTaken name except

/-- Adds a new filter with the given fields. Its name is compared as it was given, and then read. -/
def create (store : Store) (ticket : Ticket) (given : StoreArguments) :
    Except StoreError (SavedFilter × Store) :=
  match store.clashes (given.text? "name") none with
  | some name => .error (.duplicateName name)
  | none =>
    match SavedFilter.ofFields ticket given.fields with
    | .invalid is => .error (.invalid is)
    | .valid s => .ok (s, store.put s)

/-- The fields of a filter that can be changed. -/
def changeable : List String := ["name", "description", "filter", "project_id", "is_global"]

/-- Changes fields of the filter with an id, and sets its time of change. -/
def update (store : Store) (time : Calendar.Stamp) (id : String) (changes : StoreArguments) :
    Except StoreError (SavedFilter × Store) :=
  let fixed := (changes.map (·.1)).filter fun k => !changeable.contains k
  if !fixed.isEmpty then
    .error (.fixedFields (fixed.mergeSort fun a b => !decide (b < a)))
  else match store.get? id with
    | none => .error (.notFound id)
    | some current =>
      match store.clashes (changes.text? "name") (some id) with
      | some name => .error (.duplicateName name)
      | none =>
        let changed := changes.fields.foldl (fun fs c => Fields.put fs c.1 c.2) current.toFields
        match SavedFilter.ofFields ⟨id, time⟩ (Fields.put changed "updated" (.stamp time)) with
        | .invalid is => .error (.invalid is)
        | .valid s => .ok (s, store.put s)

/-- Removes the filter with an id. -/
def delete (store : Store) (id : String) : Except StoreError Store :=
  match store.get? id with
  | none => .error (.notFound id)
  | some _ => .ok (store.erase id)

/-! ## Lists -/

/-- The filters, the oldest first; none if their times of creation have no common order. -/
def oldestFirst? (filters : List SavedFilter) : Option (List SavedFilter) :=
  let aware (s : SavedFilter) : Bool := s.created.offset.isSome
  if filters.all aware || filters.all fun s => !aware s then
    some (filters.mergeSort fun a b => a.created.instant ≤ b.created.instant)
  else none

/-- All filters, the oldest first. -/
def list? (store : Store) : Option (List SavedFilter) := oldestFirst? store

/-- The filters of a project and those of all projects, the oldest first. -/
def ofProject? (store : Store) (project : Int) : Option (List SavedFilter) :=
  oldestFirst? (store.filter fun s => s.projectId == some project || s.isGlobal)

end Store

end TaskSieve
