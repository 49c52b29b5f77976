import TaskSieve.Saved.Sessions

set_option autoImplicit false

/-! # Requests to a store

An operation on a store with its arguments. Arguments are given by place or by name; a request
with an argument too many, too few or twice cannot be made. -/

namespace TaskSieve

open Schema

/-- An operation on a store. Ids and names are given as they come, since a value of another kind is
simply not found. -/
inductive StoreRequest where
  | list
  | get (id : StoreArgument)
  | findByName (name : StoreArgument)
  | ofProject (project : StoreArgument)
  | create (given : StoreArguments)
  | update (id : StoreArgument) (changes : StoreArguments)
  | delete (id : StoreArgument)
  | clear
deriving Repr

namespace StoreRequest

/-- The single argument of an operation, given by place or by name. -/
def single? (name : String) (places : List StoreArgument) (names : StoreArguments) :
    Option StoreArgument :=
  match places, names with
  | [a], [] => some a
  | [], [(key, a)] => if key = name then some a else none
  | _, _ => none

/-- The id and the changes of an update. -/
def change? (places : List StoreArgument) (names : StoreArguments) :
    Option (StoreArgument × StoreArguments) :=
  match places, names.lookup "filter_id" with
  | [a], none => some (a, names)
  | [], some a => some (a, names.filter (·.1 != "filter_id"))
  | _, _ => none

/-- The arguments of a new filter. -/
def createKeys : List String := ["name", "filter", "description", "project_id", "is_global"]

/-- Whether the arguments of a new filter are known, and none that it needs is missing. -/
def canCreate (names : Fields) : Bool :=
  names.all (fun f => createKeys.contains f.1) && Fields.has names "name" &&
    Fields.has names "filter"

/-- The request for an operation by name. -/
def ofCall? (operation : String) (places : List StoreArgument) (names : StoreArguments) :
    Option StoreRequest :=
  let noArguments := places.isEmpty && names.isEmpty
  match operation with
  | "list" => if noArguments then some .list else none
  | "get" => (single? "filter_id" places names).map .get
  | "find_by_name" => (single? "name" places names).map .findByName
  | "get_by_project" => (single? "project_id" places names).map .ofProject
  | "create" => if places.isEmpty && canCreate names.fields then some (.create names) else none
  | "update" => (change? places names).map fun (id, changes) => .update id changes
  | "delete" => (single? "filter_id" places names).map .delete
  | "clear" => if noArguments then some .clear else none
  | _ => none

end StoreRequest

/-- Why a request fails. -/
inductive RequestError where
  | malformed
  | unordered
  | store (error : StoreError)
  | file (error : FileError)
  /-- The id that is not found has too many digits for a message. -/
  | overlong (found : Overlong)
deriving DecidableEq, Repr

namespace StoreRequest

/-- A filter that is found or not. -/
def shown (found : Option SavedFilter) : Datum := .ofOption SavedFilter.toDatum found

/-- Filters in order, if they have one. -/
def listed (found : Option (List SavedFilter)) : Except RequestError Datum :=
  match found with
  | some filters => .ok (.list (filters.map SavedFilter.toDatum))
  | none => .error .unordered

/-- The number that a project is looked up by. -/
def projectFilters (store : Store) : StoreArgument → Option (List SavedFilter)
  | .value (.int n) => store.ofProject? n
  | .value (.bool b) => store.ofProject? (if b then 1 else 0)
  | .value (.num x) => match x.toInt? with
    | some n => store.ofProject? n
    | none => Store.oldestFirst? (store.filter (·.isGlobal))
  | .value .null => Store.oldestFirst? (store.filter fun s => s.projectId.isNone || s.isGlobal)
  | _ => Store.oldestFirst? (store.filter (·.isGlobal))

/-- The part of a store that an id can name; no filter has an id that is not a text. -/
def reach (store : Store) (id : StoreArgument) : Store × String :=
  match id.text? with
  | some s => (store, s)
  | none => ([], "")

/-- Why the filter with an id is not found. -/
def missing (id : StoreArgument) : RequestError :=
  if id.isKey then
    match id.shown with
    | .ok text => .store (.notFound text)
    | .error o => .overlong o
  else .malformed

/-- Answers a request from a store: what is found, and the store if it is changed. -/
def runOn (store : Store) (ticket : Ticket) : StoreRequest →
    Except RequestError (Datum × Option Store)
  | list => (listed store.list?).map fun d => (d, none)
  | get id =>
    if id.isKey then .ok (shown (id.text?.bind store.get?), none) else .error .malformed
  | findByName name => .ok (shown (name.text?.bind store.findByName?), none)
  | ofProject project => (listed (projectFilters store project)).map fun d => (d, none)
  | create given =>
    match store.create ticket given with
    | .ok (s, store) => .ok (s.toDatum, some store)
    | .error e => .error (.store e)
  | update id changes =>
    let (store, key) := reach store id
    match store.update ticket.time key changes with
    | .ok (s, store) => .ok (s.toDatum, some store)
    | .error (.notFound _) => .error (missing id)
    | .error e => .error (.store e)
  | delete id =>
    let (store, key) := reach store id
    match store.delete key with
    | .ok store => .ok (.null, some store)
    | .error _ => .error (missing id)
  | clear => .ok (.null, some [])

/-- Answers a request from the store of a session, and keeps what it changes. -/
def run (sessions : Sessions) (session : String) (store : Store) (ticket : Ticket)
    (request : StoreRequest) : Except RequestError (Datum × Sessions) := do
  let (answer, store?) ← request.runOn store ticket
  match store? with
  | none => .ok (answer, sessions)
  | some store =>
    match sessions.commit session store with
    | .ok sessions => .ok (answer, sessions)
    | .error e => .error (.file e)

end StoreRequest

end TaskSieve
