import TaskSieve.Filter.Evaluation
import TaskSieve.Listing.Basic
import TaskSieve.Note
import TaskSieve.Remote.Tasks
import TaskSieve.Task.Page

set_option autoImplicit false

/-! # Producing a listing

Everything that can be wrong with the arguments is found before anything is sent: the sort, the
saved filter, the filter itself. Then the server gets the filter once. Only if that fails, all tasks
in scope are fetched page by page, and filter, sort and page are applied here. -/

namespace TaskSieve.Listing

open TaskSieve.Filter Remote

/-- How many tasks are fetched to be filtered here: pages of this size, at most so many. -/
structure Fallback where
  pageSize : Int := 50
  maxPages : Int := 20
deriving DecidableEq, Repr

/-- The sort keys that a listing asks for. -/
def sortKeys (q : Query) : Except ListingError (List SortKey) :=
  match q.sort with
  | none => .ok []
  | some s => (SortKey.ofText s).mapError .badSort

/-- The filter that a listing asks for; a saved filter that is named has to exist. -/
def source (store : Store) (q : Query) : Except ListingError FilterSource :=
  match q.filterId with
  | none => .ok (.choose q.filter none)
  | some id =>
    match store.get? id with
    | some saved => .ok (.choose q.filter (some saved))
    | none => .error (.unknownFilter id)

/-- The warning about an argument that a filter makes meaningless. -/
def doneWarning : String := "'done' is ignored when a filter is given"

/-- A listing that is ready to be produced: its sort, and its filter with what the check said. -/
structure Plan where
  query : Query
  keys : List SortKey
  source : FilterSource
  expr : Option Expr
  warnings : List String

/-- Prepares a listing: nothing is sent before all of it is known to be valid. -/
def plan (now : Calendar.Stamp) (store : Store) (q : Query) : Except ListingError Plan := do
  let keys ← sortKeys q
  let source ← source store q
  match source.text? with
  | none => .ok ⟨q, keys, source, none, []⟩
  | some text =>
    let (expr, report) ← (accept now text).mapError .refused
    .ok ⟨q, keys, source, some expr, report.warnings ++ if q.done.isSome then [doneWarning] else []⟩

namespace Plan

variable {α : Type}

/-- The listing with these tasks. -/
def listing (p : Plan) (selection : Selection) (tasks : List Task) : Result :=
  ⟨p.query, p.source, p.warnings, selection, tasks⟩

/-- The page that the server is asked for; the filter goes with it if there is one, and such a
request is not repeated. -/
def serverQuery (p : Plan) : TaskQuery where
  filter := p.source.text?
  page := p.query.page
  perPage := p.query.perPage
  search := p.query.search
  sortBy := p.keys.map fun k => k.field.key
  orderBy := p.keys.map SortKey.direction
  project := p.query.scope
  retry := p.expr.isNone

/-- The tasks that are as done as the listing asks for. -/
def keepDone (p : Plan) (tasks : List Task) : List Task :=
  match p.query.done with
  | none => tasks
  | some done => tasks.filter (·.done == done)

/-- Filter, sort and page applied to fetched tasks. -/
def selectLocally (now : Calendar.Stamp) (p : Plan) (e : Expr) (fetched : List Task) :
    Except ListingError (List Task) :=
  match Task.sortBy? p.keys (fetched.filter fun t => e.matches now t.toFields) with
  | some sorted => .ok (Page.ofList p.query.page p.query.perPage sorted)
  | none => .error .unordered

variable [Measure α]

/-- Fetches all tasks in scope and selects among them here, the server having failed. -/
def runLocally (client : Client α) (settings : Fallback) (now : Calendar.Stamp) (p : Plan)
    (e : Expr) (serverError : String) (c : Connection α) :
    Except ListingError Result × Connection α :=
  match client.allTasks p.query.scope p.query.search settings.pageSize settings.maxPages c with
  | (.error _, c) => (.error (.unfetched serverError), c)
  | (.ok fetched, c) =>
    ((p.selectLocally now e fetched).map (p.listing (.fallback serverError fetched.length)), c)

/-- Produces the listing. -/
def run (client : Client α) (settings : Fallback) (now : Calendar.Stamp) (p : Plan)
    (c : Connection α) : Except ListingError Result × Connection α :=
  match p.expr, client.tasks p.serverQuery c with
  | none, (.ok tasks, c) => (.ok (p.listing .unfiltered (p.keepDone tasks)), c)
  | none, (.error e, c) => (.error (.api e), c)
  | some _, (.ok tasks, c) => (.ok (p.listing .server tasks), c)
  | some expr, (.error e, c) => p.runLocally client settings now expr e.message c

end Plan

/-- A listing from the arguments of a call: its answer, what is told on the way, and the connection
afterwards. -/
structure ListingRun (α : Type) where
  answer : Except ListingError Result
  notes : List Note
  connection : Connection α

variable {α : Type} [Measure α]

/-- Answers a query. -/
def produce (client : Client α) (settings : Fallback) (now : Calendar.Stamp) (store : Store)
    (q : Query) (c : Connection α) : Except ListingError Result × Connection α :=
  match plan now store q with
  | .error e => (.error e, c)
  | .ok p => p.run client settings now c

/-- The note that closes a listing. -/
def closing : Except ListingError Result → Note
  | .ok l => ⟨false, l.summary⟩
  | .error e => ⟨true, e.message⟩

/-- Lists tasks. -/
def ListingRun.ofCall (client : Client α) (settings : Fallback) (now : Calendar.Stamp)
    (store : Store) (arguments : Fields) (c : Connection α) : ListingRun α :=
  match Query.ofFields arguments with
  | .invalid issues =>
    let e := ListingError.badArguments issues
    ⟨.error e, [⟨true, e.message⟩], c⟩
  | .valid q =>
    let opening := "Listing tasks" ++ if q.wantsFilter then " with filter" else ""
    let (result, c) := produce client settings now store q c
    ⟨result, [⟨false, opening⟩, closing result], c⟩

theorem ListingRun.answer_ofCall {client : Client α} {settings : Fallback} {now : Calendar.Stamp}
    {store : Store} {arguments : Fields} {q : Query} {c : Connection α}
    (valid : Query.ofFields arguments = .valid q) :
    (ofCall client settings now store arguments c).answer =
      (produce client settings now store q c).1 := by
  rw [ofCall, valid]

end TaskSieve.Listing
