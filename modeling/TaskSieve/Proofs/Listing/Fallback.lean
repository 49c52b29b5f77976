import TaskSieve.Proofs.Listing.Protocol
import TaskSieve.Proofs.Remote.Serving
import TaskSieve.Proofs.Task.Order

set_option autoImplicit false

/-! # What the fallback selects

A listing whose filter the server failed to apply is produced from the tasks on the pages that may be
fetched. If the server answers every request for a page, these are its tasks from the first one on,
up to the limit; the listing is a page of those that match, in order; and its pages put together are
all of them. -/

namespace TaskSieve.Listing

open TaskSieve.Filter Remote
open Web (Link)

variable {α : Type} [Measure α]

/-- How many tasks the fallback asks for on a page. -/
def Fallback.size (settings : Fallback) : Nat := (min settings.pageSize largestPage).toNat

/-- The tasks of a server that the fallback fetches. -/
def Fallback.fetched (settings : Fallback) (tasks : List Task) : List Task :=
  tasks.take (settings.size * settings.maxPages.toNat)

/-- The fetched tasks that a filter selects. -/
def Fallback.selected (settings : Fallback) (now : Calendar.Stamp) (e : Expr) (tasks : List Task) :
    List Task :=
  (settings.fetched tasks).filter fun t => e.matches now t.toFields

/-- The tasks of an answer. -/
def tasksIn : Except ListingError Result → List Task
  | .ok result => result.tasks
  | .error _ => []

/-- The server fails to apply the filter of a listing, and answers every request from its tasks from
then on. -/
structure FallsBack (client : Client α) (p : Plan) (backend : List Datum) (failure : ApiError)
    (c : Connection α) : Prop where
  failed : (client.tasks p.serverQuery c).1 = .error failure
  serving : (client.tasks p.serverQuery c).2.network = .serving backend

section Run

variable {client : Client α} {settings : Fallback} {now : Calendar.Stamp} {store : Store}
  {q : Query} {keys : List SortKey} {origin : FilterSource} {text : String} {e : Expr}
  {report : Report} {endpoint : String} {link : Link} {backend : List Datum} {tasks : List Task}

theorem length_of_decodable (h : backend.map Task.ofDatum = tasks.map .valid) :
    backend.length = tasks.length := by
  have hlength := congrArg List.length h
  rwa [List.length_map, List.length_map] at hlength

/-- All tasks in scope, as far as the fallback may fetch them. -/
theorem allTasks_serving (reaches : client.Reaches (pageQuery settings q) endpoint link)
    (decodable : backend.map Task.ofDatum = tasks.map .valid) (hsize : 1 ≤ settings.pageSize)
    {c : Connection α} (serving : c.network = .serving backend) :
    let done := client.allTasks q.scope q.search settings.pageSize settings.maxPages c
    done.1 = .ok (settings.fetched tasks) ∧
      done.2.requests = c.requests ++
        (List.range (min settings.maxPages.toNat (backend.length / settings.size + 1))).map
          fun i : Nat => pageRequest client settings q link (i + 1) := by
  have hlarge : (1 : Int) ≤ largestPage := by decide
  have hperPage : (pageQuery settings q).perPage = settings.size := by
    rw [Fallback.size, Int.toNat_of_nonneg (by omega)]
    rfl
  have hbounds : 0 < settings.size ∧ settings.size ≤ 50 := by
    rw [Fallback.size, largestPage]
    omega
  obtain ⟨hread, hasked⟩ := Client.pagesFrom_serving reaches decodable hbounds.1 hperPage hbounds.2
    settings.maxPages.toNat 0 c serving
  rw [Nat.zero_mul, List.drop_zero] at hread hasked
  refine ⟨hread, hasked.trans ?_⟩
  rw [Client.pagesAsked, Client.pageCount, length_of_decodable decodable]
  refine congrArg (c.requests ++ ·) (List.map_congr_left fun i _ => ?_)
  rw [parameters_pageQuery, Nat.zero_add, pageRequest]

/-- A listing that falls back is the page that was asked for of the selected tasks in order. -/
theorem produce_of_fallsBack (ready : Ready now store q keys origin text e report)
    (reaches : client.Reaches (pageQuery settings q) endpoint link)
    (decodable : backend.map Task.ofDatum = tasks.map .valid) (hsize : 1 ≤ settings.pageSize)
    {sorted : List Task} (hsorted : Task.sortBy? keys (settings.selected now e tasks) = some sorted)
    {failure : ApiError} {c : Connection α}
    (fails : FallsBack client (planOf q keys origin e report) backend failure c) :
    let asked := (client.tasks (planOf q keys origin e report).serverQuery c).2
    let done := produce client settings now store q c
    ∃ result, done.1 = .ok result ∧ result.tasks = Page.ofList q.page q.perPage sorted ∧
      result.Reports false true (some failure.message)
        (some (min backend.length (settings.size * settings.maxPages.toNat))) ∧
      done.2.requests = asked.requests ++
        (List.range (min settings.maxPages.toNat (backend.length / settings.size + 1))).map
          fun i : Nat => pageRequest client settings q link (i + 1) := by
  have hcount : (settings.fetched tasks).length =
      min backend.length (settings.size * settings.maxPages.toNat) := by
    rw [Fallback.fetched, List.length_take, length_of_decodable decodable, Nat.min_comm]
  obtain ⟨hfetched, hasked⟩ := allTasks_serving reaches decodable hsize fails.serving
  have hselected : (planOf q keys origin e report).selectLocally now e (settings.fetched tasks) =
      .ok (Page.ofList q.page q.perPage sorted) := selectLocally_of_sorted hsorted
  have failed := fails.failed
  dsimp only
  rw [produce, plan_of_ready ready]
  dsimp only [Plan.run, planOf, Plan.runLocally] at failed hfetched hasked hselected ⊢
  generalize client.tasks _ c = attempt at failed hfetched hasked
  obtain ⟨_, asked⟩ := attempt
  dsimp only at failed hfetched hasked
  subst failed
  dsimp only
  generalize client.allTasks q.scope q.search settings.pageSize settings.maxPages asked = done
    at hfetched hasked
  obtain ⟨_, c'⟩ := done
  dsimp only at hfetched hasked
  subst hfetched
  dsimp only
  rw [hselected, hcount]
  exact ⟨_, rfl, rfl, Result.reports _, hasked⟩

/-- A server that answers the filter with a failing status and all later requests from its tasks. -/
theorem fallsBack_of_status {status : Nat} {body : Body} (hstatus : status < 200 ∨ 300 ≤ status)
    (reaches : client.Reaches (pageQuery settings q) endpoint link) {c : Connection α}
    (script : c.network = ⟨[.answered status none body], some backend⟩) :
    FallsBack client (planOf q keys origin e report) backend (.status status) c := by
  have hlocated : TaskQuery.endpoint (planOf q keys origin e report).serverQuery.project =
      .ok endpoint := reaches.located
  generalize hquery : (planOf q keys origin e report).serverQuery = query at hlocated
  have noRetry : query.retry = false := by
    rw [← hquery]
    rfl
  have written := Client.request?_of_link reaches.plain reaches.linked query.parameters query.retry
  have exchanged : exchange redirectLimit (client.reading link query.parameters) c.network =
      ⟨.answered status body, [client.reading link query.parameters], .serving backend⟩ := by
    rw [script, exchange.eq_def]
    dsimp only [Network.send]
    rw [if_neg (show (client.reading link query.parameters).link.scheme ≠ "" from reaches.scheme),
      ite_self]
    rfl
  obtain ⟨hreply, hnetwork, -⟩ := Client.attempt_of_exchange written exchanged
  have hretries : client.retriesFor query = 0 := by
    rw [Client.retriesFor, noRetry]
    rfl
  have hread : TaskQuery.readReply endpoint (.answered status body) = .error (.status status) := by
    rw [TaskQuery.readReply, Client.settle, if_pos hstatus]
    rfl
  constructor
  · rw [hquery, Client.tasks_eq hlocated, hretries, Client.attempts_zero]
    dsimp only
    rw [hreply, hread]
  · rw [hquery, Client.tasks_eq hlocated, hretries, Client.attempts_zero]
    exact hnetwork

end Run

/-- The fallback is exact. Whatever the page, it asks for the pages of the server in order and for
none beyond the first that is not full, and it answers the page that was asked for of the fetched
tasks that match, in order. The pages from the first one on, put together, are all of these tasks,
each once. -/
theorem produce_exact_of_fallsBack (client : Client α) (settings : Fallback)
    (now : Calendar.Stamp) (store : Store) (q : Query) {keys : List SortKey} {origin : FilterSource}
    {text : String} {e : Expr} {report : Report} {endpoint : String} {link : Link}
    {backend : List Datum} {tasks : List Task}
    (ready : Ready now store q keys origin text e report)
    (reaches : client.Reaches (pageQuery settings q) endpoint link)
    (decodable : backend.map Task.ofDatum = tasks.map .valid)
    (hsize : 1 ≤ settings.pageSize) (hperPage : 1 ≤ q.perPage)
    (comparable : SortKey.Comparable keys (settings.selected now e tasks)) :
    let plan (page : Int) := planOf { q with page } keys origin e report
    let listing (page : Int) (c : Connection α) := produce client settings now store { q with page } c
    ∃ sorted, Task.sortBy? keys (settings.selected now e tasks) = some sorted ∧
      sorted.Perm (settings.selected now e tasks) ∧
      (∀ page failure c, FallsBack client (plan page) backend failure c →
        let asked := (client.tasks (plan page).serverQuery c).2
        (client.allTasks q.scope q.search settings.pageSize settings.maxPages asked).1 =
          .ok (tasks.take (settings.size * settings.maxPages.toNat)) ∧
        ∃ result, (listing page c).1 = .ok result ∧
          result.tasks = Page.ofList page q.perPage sorted ∧
          result.Reports false true (some failure.message)
            (some (min backend.length (settings.size * settings.maxPages.toNat))) ∧
          (listing page c).2.requests = asked.requests ++
            (List.range (min settings.maxPages.toNat (backend.length / settings.size + 1))).map
              fun i : Nat => pageRequest client settings q link (i + 1)) ∧
      ∀ (n : Nat) (c : Nat → Connection α),
        (∀ i < n, ∃ failure, FallsBack client (plan (i + 1)) backend failure (c i)) →
        let pages := (List.range n).flatMap fun i : Nat => tasksIn (listing (i + 1) (c i)).1
        pages = sorted.take (n * q.perPage.toNat) ∧
          (sorted.length ≤ n * q.perPage.toNat → pages = sorted) := by
  intro plan listing
  obtain ⟨sorted, hsorted⟩ := Task.exists_sortBy comparable
  have one := fun (page : Int) (failure : ApiError) (c : Connection α)
      (fails : FallsBack client (plan page) backend failure c) =>
    produce_of_fallsBack (q := { q with page })
      ⟨ready.sort, ready.lookup, ready.given, ready.accepted⟩ reaches decodable hsize hsorted fails
  refine ⟨sorted, hsorted, Task.sortBy?_perm hsorted, fun page failure c fails => ?_,
    fun n c fails => ?_⟩
  · exact ⟨(allTasks_serving reaches decodable hsize fails.serving).1, one page failure c fails⟩
  · have pages : ((List.range n).flatMap fun i : Nat => tasksIn (listing (i + 1) (c i)).1) =
        sorted.take (n * q.perPage.toNat) := by
      rw [← Page.flatMap_pages, Int.toNat_of_nonneg (by omega)]
      refine List.flatMap_congr fun i hi => ?_
      obtain ⟨failure, hfails⟩ := fails i (List.mem_range.1 hi)
      obtain ⟨result, hresult, htasks, -⟩ := one _ failure (c i) hfails
      rw [show (listing (i + 1) (c i)).1 = .ok result from hresult]
      exact htasks
    exact ⟨pages, fun hle => pages.trans (List.take_of_length_le hle)⟩

/-- A task of which nothing is known but its id, its title and whether it is done. -/
def plainTask (id : Int) (title : String) (done : Bool) : Task :=
  ⟨id, title, "", done, 0, 0, none, none, none, none, [], [], []⟩

/-- Five tasks, of which two pages of two are fetched; three of these match. -/
theorem produce_exact_of_two_pages :
    let client : Client Rat :=
      ⟨"https://v.example.com/api/v1", "tok", "sieve", ⟨60, 10, by decide, by decide⟩, 2, 1⟩
    let tasks := [plainTask 1 "b" false, plainTask 2 "A" false, plainTask 3 "c" true,
      plainTask 4 "d" false, plainTask 5 "a" false]
    let backend := tasks.map fun t =>
      Datum.record [("id", .int t.id), ("title", .text t.title), ("done", .bool t.done)]
    let q : Query := { filter := some "done = false", sort := some "title", perPage := 2 }
    let c := client.connect ⟨[.answered 500 none .empty], some backend⟩ 0
    let page (i : Nat) := produce client ⟨2, 2⟩ (.ofDay 738000 none) [] { q with page := i + 1 } c
    ((List.range 2).flatMap fun i => (tasksIn (page i).1).map Task.id) = [2, 1, 4] := by
  intro client tasks backend q c page
  have accepted : accept (.ofDay 738000 none) "done = false" =
      .ok (.leaf ⟨.done, .eq, .one (.bool false)⟩, {}) := by decide +kernel
  have linked : (Client.link? (⟨"https://v.example.com/api/v1", "tok", "sieve",
      ⟨60, 10, by decide, by decide⟩, 2, 1⟩ : Client Rat) "tasks/all").any
        (fun link => link.scheme ≠ "") = true := by decide +kernel
  obtain ⟨link, hlink, hscheme⟩ := (Option.any_eq_true _ _).1 linked
  have reaches : client.Reaches (pageQuery ⟨2, 2⟩ q) "tasks/all" link := by
    refine ⟨⟨?_, ?_⟩, rfl, hlink, of_decide_eq_true hscheme⟩
    · show isHeaderText "tok" = true
      decide
    · show isHeaderText "sieve" = true
      decide
  have decodable : backend.map Task.ofDatum = tasks.map .valid := rfl
  have comparable : SortKey.Comparable [⟨.title, false⟩]
      (Fallback.selected ⟨2, 2⟩ (.ofDay 738000 none) (.leaf ⟨.done, .eq, .one (.bool false)⟩)
        tasks) := by
    intro k hk a _ b _ x hx y hy
    obtain rfl := List.mem_singleton.1 hk
    have titles : ∀ t : Task, SortKey.value? ⟨.title, false⟩ t =
        some (.text (Text.lowerString t.title)) := fun t => rfl
    rw [titles] at hx hy
    obtain rfl := Option.mem_some_iff.1 hx
    obtain rfl := Option.mem_some_iff.1 hy
    exact ⟨_, rfl⟩
  have sort : sortKeys q = .ok [⟨.title, false⟩] := rfl
  obtain ⟨sorted, hsorted, -, -, pages⟩ := produce_exact_of_fallsBack client ⟨2, 2⟩
    (.ofDay 738000 none) [] q ⟨sort, rfl, rfl, accepted⟩ reaches decodable (by decide) (by decide)
    comparable
  have hids : (Task.sortBy? [⟨.title, false⟩] (Fallback.selected ⟨2, 2⟩ (.ofDay 738000 none)
      (.leaf ⟨.done, .eq, .one (.bool false)⟩) tasks)).map (·.map Task.id) = some [2, 1, 4] := by
    decide +kernel
  rw [hsorted] at hids
  have hids : sorted.map Task.id = [2, 1, 4] := Option.some.inj hids
  have hlength : sorted.length ≤ 2 * 2 := by
    rw [← List.length_map (f := Task.id), hids]
    decide
  have whole := (pages 2 (fun _ => c) fun i _ => ⟨.status 500,
    fallsBack_of_status (q := { q with page := i + 1 }) (.inr (by decide)) reaches rfl⟩).2 hlength
  rw [← List.map_flatMap, ← hids, ← whole]

end TaskSieve.Listing
