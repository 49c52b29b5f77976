import TaskSieve.Remote.Client
import TaskSieve.Task.Basic

set_option autoImplicit false

/-! # Asking for tasks

A page of tasks is asked for by its number and size, with a filter, a search and a sort that the
server applies. All tasks are fetched page by page until a page is short. -/

namespace TaskSieve.Remote

/-- The most tasks that the server puts on a page. -/
def largestPage : Int := 50

/-- A page of tasks to ask for. -/
structure TaskQuery where
  filter : Option String := none
  page : Int := 1
  perPage : Int := largestPage
  search : Option String := none
  sortBy : List String := []
  orderBy : List String := []
  project : Option Int := none
  retry : Bool := true
deriving DecidableEq, Repr

namespace TaskQuery

/-- Where the tasks of a project are, or of all projects. -/
def endpoint : Option Int → Except ApiError String
  | none => .ok "tasks/all"
  | some id =>
    if id ≤ 0 then .error (.badProject id)
    else .ok ("projects/" ++ integerText id ++ "/tasks")

/-- A parameter for a text, unless the text is missing or empty. -/
def filled (name : String) : Option String → List (String × String)
  | none => []
  | some s => if s = "" then [] else [(name, s)]

/-- The parameters that ask for the page. -/
def parameters (q : TaskQuery) : List (String × String) :=
  [("page", integerText q.page), ("per_page", integerText (min q.perPage largestPage))] ++
    filled "filter" q.filter ++ filled "s" q.search ++
    if q.sortBy.isEmpty then []
    else q.sortBy.map ("sort_by", ·) ++ q.orderBy.map ("order_by", ·)

/-- The tasks in the answer from an endpoint; null stands for no tasks. -/
def decode (endpoint : String) : Datum → Except ApiError (List Task)
  | .null => .ok []
  | .list items =>
    match items.mapM fun d => (Task.ofDatum d).value? with
    | some tasks => .ok tasks
    | none => .error (.undecodable endpoint (.badTask items.length))
  | _ => .error (.undecodable endpoint .notList)

end TaskQuery

namespace Client

variable {α : Type} [Measure α]

/-- Fetches a page of tasks. -/
def tasks (client : Client α) (q : TaskQuery) (c : Connection α) :
    Except ApiError (List Task) × Connection α :=
  match TaskQuery.endpoint q.project with
  | .error e => (.error e, c)
  | .ok endpoint =>
    let (result, c) := client.run ⟨"GET", endpoint, none, some q.parameters, q.retry⟩ c
    (result.bind (TaskQuery.decode endpoint), c)

/-- Fetches at most `left` pages, from the page that the query asks for on, until one is short. -/
def pagesFrom (client : Client α) (q : TaskQuery) (left : Nat) (c : Connection α) :
    Except ApiError (List Task) × Connection α :=
  match left with
  | 0 => (.ok [], c)
  | left + 1 =>
    match client.tasks q c with
    | (.error e, c) => (.error e, c)
    | (.ok batch, c) =>
      if (batch.length : Int) < q.perPage then (.ok batch, c)
      else
        let (rest, c) := client.pagesFrom { q with page := q.page + 1 } left c
        (rest.map (batch ++ ·), c)

/-- Fetches tasks page by page, at most `maxPages` pages. -/
def allTasks (client : Client α) (project : Option Int) (search : Option String)
    (pageSize maxPages : Int) (c : Connection α) : Except ApiError (List Task) × Connection α :=
  client.pagesFrom { project, search, perPage := min pageSize largestPage } maxPages.toNat c

/-- Whether the server is there and accepts the token: it tells its version. -/
def testConnectivity (client : Client α) (c : Connection α) : Bool × Connection α :=
  match client.run ⟨"GET", "info", none, none, true⟩ c with
  | (.ok (.record fields), c) => (Fields.has fields "version", c)
  | (_, c) => (false, c)

end Client

end TaskSieve.Remote
