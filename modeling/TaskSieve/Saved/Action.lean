import TaskSieve.Answer
import TaskSieve.Filter.Accept
import TaskSieve.Note
import TaskSieve.Saved.Parameters
import TaskSieve.Saved.Sessions

set_option autoImplicit false

/-! # Actions on saved filters

Saved filters are listed, shown, created, changed and deleted by name of an action; two more
actions build a filter from conditions and validate one. Only a filter that can be read and has no
errors is saved. An action that is refused changes nothing. -/

namespace TaskSieve

open Schema TaskSieve.Filter

/-- Why an action is refused. -/
inductive ActionError where
  | unknownAction (name : String)
  | badParameters (action : String) (issues : List Issue)
  | store (error : StoreError)
  | unreadable (error : ParseError)
  | rejected (report : Report)
  | overlong (found : Overlong)
  | unbuildable (error : BuildError)
  | noConditions
  | noChanges
  | brokenFile
  | unexpected (action : String)
deriving DecidableEq, Repr

/-- An action on saved filters. -/
inductive Action where
  | list
  | get
  | create
  | update
  | delete
  | build
  | validate
deriving DecidableEq, Repr

namespace Action

/-- All actions. -/
def all : List Action := [list, get, create, update, delete, build, validate]

/-- The name of an action. -/
def name : Action → String
  | list => "list"
  | get => "get"
  | create => "create"
  | update => "update"
  | delete => "delete"
  | build => "build"
  | validate => "validate"

/-- The action with a name. -/
def ofName? (s : String) : Option Action := all.find? (·.name == s)

end Action

namespace ActionError

/-- The kind of an error in answers. -/
def kind : ActionError → String
  | unknownAction _ | badParameters _ _ | unbuildable _ | noConditions | noChanges | brokenFile =>
    "validation_error"
  | store (.notFound _) => "not_found_error"
  | store (.duplicateName _) => "duplicate_name_error"
  | store _ => "validation_error"
  | unreadable _ => "parse_error"
  | rejected _ | overlong _ => "validation_error"
  | unexpected _ => "unexpected_error"

/-- The error in words. -/
def message : ActionError → String
  | unknownAction name => "Unknown action: " ++ name ++ "; expected one of: " ++
      ", ".intercalate (Action.all.map Action.name)
  | badParameters action _ => "Invalid parameters for " ++ action
  | store e => e.message
  | unreadable e => "Invalid filter: " ++ e.message
  | rejected r => "Invalid filter: " ++ "; ".intercalate r.errors
  | overlong o => o.message
  | unbuildable e => e.message
  | noConditions => "No filter conditions provided"
  | noChanges => "No fields to update"
  | brokenFile => "invalid JSON"
  | unexpected action => "Unexpected error in filters " ++ action

end ActionError

/-- The parts of an error that are answered beside its kind and its message. -/
def ActionError.details : ActionError → Fields
  | .unreadable e => [("details", .record e.toFields)]
  | .rejected r => [("errors", .texts r.errors), ("warnings", .texts r.warnings)]
  | _ => []

/-- What a successful action answers: a message, and fields beside it. -/
structure Reply where
  message : String
  fields : Fields
deriving Repr

/-- The answer to an action as a record. -/
def actionAnswer : Except ActionError Reply → Fields
  | .ok r => Answer.success r.message r.fields
  | .error e => Answer.failure e.kind e.message e.details

namespace Action

/-! ## Filters that may be saved -/

/-- Why an action is refused whose filter text may not be used. -/
def refused (action : Action) : Refusal → ActionError
  | .unreadable e => .unreadable e
  | .rejected r => .rejected r
  | .overlong o => .overlong o
  | .fault _ => .unexpected action.name

/-- The warnings of a filter text that may be saved. -/
def warnings (action : Action) (now : Calendar.Stamp) (source : String) :
    Except ActionError (List String) :=
  match accept now source with
  | .ok (_, r) => .ok r.warnings
  | .error e => .error (refused action e)

/-! ## Looking -/

/-- Shown filters, or an unexpected error if they have no order. -/
def sorted (found : Option (List SavedFilter)) : Except ActionError (List SavedFilter) :=
  match found with
  | some fs => .ok fs
  | none => .error (.unexpected list.name)

/-- Lists saved filters. -/
def runList (store : Store) (p : ListParameters) : Except ActionError Reply := do
  let found ← match p.projectId with
    | some project => sorted (store.ofProject? project)
    | none => do
      let all ← sorted store.list?
      .ok (match p.globalOnly with
        | some g => all.filter (·.isGlobal == g)
        | none => all)
  let noun := if found.length = 1 then "filter" else "filters"
  .ok ⟨"Found " ++ naturalText found.length ++ " saved " ++ noun,
    [("filters", .list (found.map SavedFilter.toDatum)), ("count", .int found.length)]⟩

/-- Finds a saved filter. -/
def find (store : Store) (id : String) : Except ActionError SavedFilter :=
  match store.get? id with
  | some s => .ok s
  | none => .error (.store (.notFound id))

/-- Shows a saved filter. -/
def runGet (store : Store) (id : String) : Except ActionError Reply := do
  let s ← find store id
  .ok ⟨"Retrieved filter \"" ++ s.name ++ "\"", [("filter", s.toDatum)]⟩

/-! ## Writing

Each of these gives the answer and the changed store. -/

/-- The filter text of a new filter. -/
def chosenText (p : CreateParameters) : Except ActionError String :=
  match filled p.filter, p.columns with
  | some s, _ => .ok s
  | none, some columns =>
    match columns.print with
    | .ok s => if s = "" then .error .noConditions else .ok s
    | .error e => .error (.unbuildable e)
  | none, none => .error .noConditions

/-- The fields of a new filter. -/
def newFields (p : CreateParameters) (source : String) : Fields :=
  [("name", .text (p.chosenName.getD "")), ("filter", .text source),
    ("description", .ofOption .text p.description), ("project_id", .ofOption .int p.projectId),
    ("is_global", .bool (p.isGlobal || p.isFavourite.getD false))]

/-- Saves a new filter. -/
def runCreate (store : Store) (ticket : Ticket) (p : CreateParameters) :
    Except ActionError (Reply × Store) := do
  let source ← chosenText p
  let warnings ← warnings create ticket.time source
  match store.create ticket (.ofFields (newFields p source)) with
  | .error e => .error (.store e)
  | .ok (s, store) =>
    .ok (⟨"Filter \"" ++ s.name ++ "\" saved successfully",
      [("filter", s.toDatum), ("warnings", .texts warnings)]⟩, store)

/-- Changes a saved filter. -/
def runUpdate (store : Store) (ticket : Ticket) (p : UpdateParameters) :
    Except ActionError (Reply × Store) := do
  if p.changes.isEmpty then .error .noChanges
  else
    let warnings ← match p.filter with
      | some source => warnings update ticket.time source
      | none => .ok []
    match store.update ticket.time p.id (.ofFields p.changes) with
    | .error e => .error (.store e)
    | .ok (s, store) =>
      .ok (⟨"Filter \"" ++ s.name ++ "\" updated successfully",
        [("filter", s.toDatum), ("affected_fields", .texts (p.changes.map (·.1))),
          ("warnings", .texts warnings)]⟩, store)

/-- Deletes a saved filter. -/
def runDelete (store : Store) (id : String) : Except ActionError (Reply × Store) := do
  let s ← find store id
  match store.delete id with
  | .error e => .error (.store e)
  | .ok store =>
    .ok (⟨"Filter \"" ++ s.name ++ "\" deleted successfully", [("filter_id", .text id)]⟩, store)

/-! ## Building and validating -/

/-- The fields of a report. -/
def reportFields (r : Report) : Fields :=
  [("valid", .bool r.valid), ("errors", .texts r.errors), ("warnings", .texts r.warnings)]

/-- Builds a filter from conditions. -/
def runBuild (now : Calendar.Stamp) (p : BuildParameters) : Except ActionError Reply := do
  let conditions ← (p.conditions.mapM Condition.checked).mapError .unbuildable
  let source ← (Builder.joinAll p.combinator conditions).mapError .unbuildable
  if source = "" then .error .noConditions
  else
    let e ← (Expr.read source).mapError fun e => refused build e.toRefusal
    let r ← (e.check now).mapError fun f => refused build f.toRefusal
    .ok ⟨"Filter built successfully",
      [("filter", .text source), ("condition_count", .int conditions.length)] ++ reportFields r⟩

/-- Validates a filter text. A text that is none of the language is answered for as well. -/
def runValidate (now : Calendar.Stamp) (source : String) : Except ActionError Reply :=
  let failed := "Filter validation failed"
  match Expr.read source with
  | .error (.malformed e) =>
    .ok ⟨failed, [("filter", .text source), ("valid", .bool false), ("errors", .texts [e.message]),
      ("warnings", .list []), ("parse_error", .record e.toFields)]⟩
  | .error (.overlong o) => .error (.overlong o)
  | .ok e =>
    match e.check now with
    | .error f => .error (refused validate f.toRefusal)
    | .ok r =>
      let message := if r.valid then "Filter is valid" else failed
      .ok ⟨message, ("filter", .text source) :: reportFields r⟩

/-! ## Running an action -/

/-- Goes on with parameters that have the right form. -/
def withParameters {α β : Type} (action : Action) (p : Checked α)
    (go : α → Except ActionError β) : Except ActionError β :=
  match p with
  | .valid p => go p
  | .invalid is => .error (.badParameters action.name is)

/-- An answer without a changed store. -/
def unchanged (r : Except ActionError Reply) : Except ActionError (Reply × Option Store) :=
  r.map fun reply => (reply, none)

/-- An answer with a changed store. -/
def changed (r : Except ActionError (Reply × Store)) : Except ActionError (Reply × Option Store) :=
  r.map fun (reply, store) => (reply, some store)

/-- Runs an action on a store: the answer, and the store if it is changed. -/
def runOn (store : Store) (ticket : Ticket) (action : Action) (parameters : Datum) :
    Except ActionError (Reply × Option Store) :=
  match action with
  | list => withParameters action (record ListParameters.ofFields parameters) fun p =>
      unchanged (runList store p)
  | get => withParameters action (record idParameter parameters) fun id =>
      unchanged (runGet store id)
  | create => withParameters action (record CreateParameters.ofFields parameters) fun p =>
      changed (runCreate store ticket p)
  | update => withParameters action (record UpdateParameters.ofFields parameters) fun p =>
      changed (runUpdate store ticket p)
  | delete => withParameters action (record idParameter parameters) fun id =>
      changed (runDelete store id)
  | build => withParameters action (record BuildParameters.ofFields parameters) fun p =>
      unchanged (runBuild ticket.time p)
  | validate => withParameters action (record textParameter parameters) fun source =>
      unchanged (runValidate ticket.time source)

/-- Why a change that could not be written is refused. -/
def writeError (action : Action) : FileError → ActionError
  | .notJson => .brokenFile
  | .overlong o => .overlong o
  | _ => .unexpected action.name

/-- Runs an action on the store of a session, and keeps what it changes. -/
def run (sessions : Sessions) (session : String) (store : Store) (ticket : Ticket)
    (action : Action) (parameters : Datum) : Except ActionError (Reply × Sessions) := do
  let (reply, store?) ← runOn store ticket action parameters
  match store? with
  | none => .ok (reply, sessions)
  | some store =>
    match sessions.commit session store with
    | .ok sessions => .ok (reply, sessions)
    | .error e => .error (writeError action e)

end Action

/-! ## The tool -/

/-- What a run of the tool answers and tells, and the sessions after it. -/
structure FiltersRun where
  answer : Except ActionError Reply
  notes : List Note
  sessions : Sessions
deriving Repr

namespace FiltersRun

/-- The last note of a run: the message of its answer. -/
def closing : Except ActionError Reply → Note
  | .ok reply => ⟨false, reply.message⟩
  | .error e => ⟨true, e.message⟩

/-- Runs the action with a name for a session whose store is open. Parameters that are absent,
empty, zero or false are no parameters. -/
def ofCall (sessions : Sessions) (session : String) (store : Store) (ticket : Ticket)
    (name : String) (parameters : Datum) : FiltersRun :=
  match Action.ofName? name with
  | none =>
    let answer := .error (.unknownAction name)
    ⟨answer, [closing answer], sessions⟩
  | some action =>
    let parameters := if parameters.isEmpty then .record [] else parameters
    let started : Note := ⟨false, "Executing filters action: " ++ name⟩
    match action.run sessions session store ticket parameters with
    | .ok (reply, sessions) => ⟨.ok reply, [started, closing (.ok reply)], sessions⟩
    | .error e => ⟨.error e, [started, closing (.error e)], sessions⟩

end FiltersRun

end TaskSieve
