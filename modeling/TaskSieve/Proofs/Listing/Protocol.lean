import TaskSieve.Listing.Run
import TaskSieve.Proofs.Except
import TaskSieve.Proofs.Filter.Printing
import TaskSieve.Proofs.Listing.Query
import TaskSieve.Proofs.Remote.Paging

set_option autoImplicit false

/-! # The two phases of a listing

A listing by a filter is refused before anything is sent, or it asks the server once with the filter
and, if that fails, fetches page by page without it. `Filtered` says what the trace of such a
listing looks like and what is answered after it. -/

namespace TaskSieve.Listing

open TaskSieve.Filter Remote
open Web (Link)

/-! ## What is reported -/

namespace Result

/-- A value that is reported beside the tasks. -/
def field? (r : Result) (key : String) : Option Datum :=
  match r.metadata with
  | .record fields => Fields.get? fields key
  | _ => none

/-- What a listing reports of who selected its tasks, and of their number. -/
structure Reports (r : Result) (used attempted : Bool) (serverError : Option String)
    (fetched : Option Nat) : Prop where
  used : r.field? "serverSideFilteringUsed" = some (.bool used)
  attempted : r.field? "serverSideFilteringAttempted" = some (.bool attempted)
  serverError : r.field? "serverSideError" = some (.ofOption .text serverError)
  fetched : r.field? "fetchedCount" = some (.ofOption (fun n => .int (Int.ofNat n)) fetched)
  count : r.field? "count" = some (.int r.tasks.length)

theorem reports (r : Result) : r.Reports r.selection.used r.selection.attempted
    r.selection.serverError? r.selection.fetched? :=
  ⟨rfl, rfl, rfl, rfl, rfl⟩

end Result

/-! ## Before anything is sent -/

/-- A listing is refused: by its sort, by the lookup of its filter, or by the filter itself. -/
inductive Refused (now : Calendar.Stamp) (store : Store) (q : Query) : ListingError → Prop
  | sort {e : ListingError} (bad : sortKeys q = .error e) : Refused now store q e
  | lookup {keys : List SortKey} {e : ListingError} (sort : sortKeys q = .ok keys)
      (bad : source store q = .error e) : Refused now store q e
  | filter {keys : List SortKey} {origin : FilterSource} {text : String} {refusal : Refusal}
      (sort : sortKeys q = .ok keys) (lookup : source store q = .ok origin)
      (given : origin.text? = some text) (bad : accept now text = .error refusal) :
      Refused now store q (.refused refusal)

/-- A listing has a sort and a filter that may be used. -/
structure Ready (now : Calendar.Stamp) (store : Store) (q : Query) (keys : List SortKey)
    (origin : FilterSource) (text : String) (e : Expr) (report : Report) : Prop where
  sort : sortKeys q = .ok keys
  lookup : source store q = .ok origin
  given : origin.text? = some text
  accepted : accept now text = .ok (e, report)

section Plan

variable {now : Calendar.Stamp} {store : Store} {q : Query} {keys : List SortKey}
  {origin : FilterSource} {text : String} {e : Expr} {report : Report}

theorem plan_of_lookup (sort : sortKeys q = .ok keys) (lookup : source store q = .ok origin) :
    plan now store q = match origin.text? with
      | none => .ok ⟨q, keys, origin, none, []⟩
      | some text => ((accept now text).mapError .refused).bind fun r => .ok ⟨q, keys, origin,
          some r.1, r.2.warnings ++ if q.done.isSome then [doneWarning] else []⟩ := by
  rw [plan, sort]
  change (source store q >>= _) = _
  rw [lookup]
  rfl

theorem plan_of_refused {error : ListingError} (h : Refused now store q error) :
    plan now store q = .error error := by
  cases h with
  | sort bad =>
    rw [plan, bad]
    rfl
  | lookup sort bad =>
    rw [plan, sort]
    change (source store q >>= _) = _
    rw [bad]
    rfl
  | filter sort lookup given bad =>
    rw [plan_of_lookup sort lookup, given]
    dsimp only
    rw [bad]
    rfl

/-- The plan of a listing by a filter. -/
def planOf (q : Query) (keys : List SortKey) (origin : FilterSource) (e : Expr) (report : Report) :
    Plan :=
  ⟨q, keys, origin, some e, report.warnings ++ if q.done.isSome then [doneWarning] else []⟩

theorem plan_of_ready (h : Ready now store q keys origin text e report) :
    plan now store q = .ok (planOf q keys origin e report) := by
  rw [plan_of_lookup h.sort h.lookup, h.given]
  dsimp only
  rw [h.accepted]
  rfl

theorem plan_of_unfiltered (sort : sortKeys q = .ok keys) (lookup : source store q = .ok origin)
    (given : origin.text? = none) : plan now store q = .ok ⟨q, keys, origin, none, []⟩ := by
  rw [plan_of_lookup sort lookup, given]

/-- An empty text is no filter that may be used. -/
theorem ne_empty_of_accept {r : Expr × Report} (h : accept now text = .ok r) : text ≠ "" := by
  rintro rfl
  have unreadable : Expr.read "" = .error (.malformed ⟨.empty, 0⟩) := by decide +kernel
  rw [accept, unreadable] at h
  exact absurd h (by simp)

end Plan

/-! ## What is asked for -/

/-- The parameters of the request that gives the filter to the server. -/
def serverParameters (q : Query) (keys : List SortKey) (text : String) : List (String × String) :=
  [("page", integerText q.page), ("per_page", integerText (min q.perPage largestPage)),
    ("filter", text)] ++ TaskQuery.filled "s" q.search ++
    if keys.isEmpty then []
    else keys.map (fun k => ("sort_by", k.field.key)) ++
      keys.map (fun k => ("order_by", k.direction))

/-- The parameters that ask for a page without a filter. -/
def pageParameters (size : Int) (search : Option String) (page : Int) : List (String × String) :=
  [("page", integerText page), ("per_page", integerText (min size largestPage))] ++
    TaskQuery.filled "s" search

theorem parameters_serverQuery {q : Query} {keys : List SortKey} {origin : FilterSource} {e : Expr}
    {report : Report} {text : String} (given : origin.text? = some text) (hne : text ≠ "") :
    (planOf q keys origin e report).serverQuery.parameters = serverParameters q keys text := by
  have hfilter : TaskQuery.filled "filter" (some text) = [("filter", text)] := if_neg hne
  simp only [TaskQuery.parameters, Plan.serverQuery, planOf, given, hfilter, serverParameters,
    List.isEmpty_map, List.map_map]
  rfl

/-- The query of the fallback for its first page. -/
def pageQuery (settings : Fallback) (q : Query) : TaskQuery :=
  { project := q.scope, search := q.search, perPage := min settings.pageSize largestPage }

theorem parameters_pageQuery (settings : Fallback) (q : Query) (page : Int) :
    ((pageQuery settings q).at_ page).parameters =
      pageParameters settings.pageSize q.search page := by
  have hsize : min (min settings.pageSize largestPage) largestPage =
      min settings.pageSize largestPage := by omega
  simp only [TaskQuery.parameters, TaskQuery.at_, pageQuery, hsize, pageParameters]
  exact List.append_nil _

theorem key_of_mem_pageParameters {size page : Int} {search : Option String}
    {x : String × String} (h : x ∈ pageParameters size search page) :
    x.1 = "page" ∨ x.1 = "per_page" ∨ x.1 = "s" := by
  rcases List.mem_append.1 h with h | h
  · simp only [List.mem_cons, List.not_mem_nil, or_false] at h
    rcases h with rfl | rfl
    · exact .inl rfl
    · exact .inr (.inl rfl)
  · unfold TaskQuery.filled at h
    split at h
    · exact absurd h List.not_mem_nil
    · split at h
      · exact absurd h List.not_mem_nil
      · rw [List.mem_singleton.1 h]
        exact .inr (.inr rfl)

/-! ## The trace of a listing by a filter -/

section Trace

variable {α : Type} (client : Client α) (settings : Fallback) (q : Query) (endpoint : String)
  (link : Link)

/-- The request for a page of the fallback. -/
def pageRequest (page : Int) : Request :=
  client.reading link (pageParameters settings.pageSize q.search page)

/-- The requests of the fallback: none has a filter or a sort, all go to the same link with the same
search, and they ask for the pages from the first one on, each repeated only after a reply that
looks transient. -/
structure InOrder (trace : Trace) : Prop where
  bare : ∀ x ∈ trace, ∀ p ∈ x.1.parameters, p.1 = "page" ∨ p.1 = "per_page" ∨ p.1 = "s"
  page : ∀ x ∈ trace, ∃ page, 1 ≤ page ∧ x.1 = pageRequest client settings q link page
  first : ∀ x ∈ trace.head?, x.1 = pageRequest client settings q link 1
  steps : trace.IsChain (Client.Follows (pageRequest client settings q link)
    (min settings.pageSize largestPage) endpoint)

/-- The tasks that the replies of a fallback hold and the filter selects. -/
def matching (now : Calendar.Stamp) (e : Expr) (trace : Trace) : List Task :=
  (trace.flatMap fun x => TaskQuery.tasksOf endpoint x.2).filter fun t => e.matches now t.toFields

/-- What a listing by a filter sends, and what it answers then. The filter goes with the first
request and with no other one. -/
inductive Filtered (now : Calendar.Stamp) (keys : List SortKey) (text : String) (e : Expr) :
    Trace → Except ListingError Result → Prop
  | server {reply : Remote.Reply} {result : Result}
      (read : TaskQuery.readReply endpoint reply = .ok result.tasks)
      (reports : result.Reports true true none none) :
      Filtered now keys text e [(client.reading link (serverParameters q keys text), reply)]
        (.ok result)
  | unfetched {reply : Remote.Reply} {trace : Trace} {failure failure' : ApiError}
      (read : TaskQuery.readReply endpoint reply = .error failure)
      (inOrder : InOrder client settings q endpoint link trace)
      (failed : ∃ x ∈ trace.getLast?, TaskQuery.readReply endpoint x.2 = .error failure') :
      Filtered now keys text e
        ((client.reading link (serverParameters q keys text), reply) :: trace)
        (.error (.unfetched failure.message))
  | fallback {reply : Remote.Reply} {trace : Trace} {failure : ApiError}
      {sorted : List Task} {result : Result}
      (read : TaskQuery.readReply endpoint reply = .error failure)
      (inOrder : InOrder client settings q endpoint link trace)
      (ordered : Task.sortBy? keys (matching endpoint now e trace) = some sorted)
      (tasks : result.tasks = Page.ofList q.page q.perPage sorted)
      (reports : result.Reports false true (some failure.message)
        (some (trace.flatMap fun x => TaskQuery.tasksOf endpoint x.2).length)) :
      Filtered now keys text e
        ((client.reading link (serverParameters q keys text), reply) :: trace) (.ok result)
  | unordered {reply : Remote.Reply} {trace : Trace} {failure : ApiError}
      (read : TaskQuery.readReply endpoint reply = .error failure)
      (inOrder : InOrder client settings q endpoint link trace)
      (unordered : Task.sortBy? keys (matching endpoint now e trace) = none) :
      Filtered now keys text e
        ((client.reading link (serverParameters q keys text), reply) :: trace) (.error .unordered)

end Trace

/-! ## Every run is such a trace -/

/-- There is nothing to compare where there is nothing to sort. -/
theorem sortBy?_nil (keys : List SortKey) : Task.sortBy? keys [] = some [] := by
  induction keys with
  | nil => rfl
  | cons key keys ih =>
    rw [Task.sortBy?, List.foldrM_cons]
    change (Task.sortBy? keys [] >>= _) = _
    rw [ih]
    change key.sort? [] = some []
    unfold SortKey.sort?
    cases key.descending <;> rfl

section Select

variable {now : Calendar.Stamp} {p : Plan} {e : Expr} {fetched : List Task}

theorem selectLocally_of_sorted {sorted : List Task} (h : Task.sortBy? p.keys
    (fetched.filter fun t => e.matches now t.toFields) = some sorted) :
    p.selectLocally now e fetched = .ok (Page.ofList p.query.page p.query.perPage sorted) := by
  rw [Plan.selectLocally, h]

theorem selectLocally_of_unordered (h : Task.sortBy? p.keys
    (fetched.filter fun t => e.matches now t.toFields) = none) :
    p.selectLocally now e fetched = .error .unordered := by
  rw [Plan.selectLocally, h]

end Select

section Run

variable {α : Type} {client : Client α} {settings : Fallback} {now : Calendar.Stamp} {q : Query}
  {keys : List SortKey} {origin : FilterSource} {text : String} {e : Expr} {report : Report}
  {endpoint : String} {link : Link} {c : Connection α}

theorem pageRequest_eq : (fun page => client.reading link
    ((pageQuery settings q).at_ page).parameters) = pageRequest client settings q link := by
  funext page
  rw [parameters_pageQuery, pageRequest]

theorem inOrder_of_fetches {retries left : Nat} {trace : Trace}
    {result : Except ApiError (List Task)}
    (h : Client.Fetches (pageRequest client settings q link) retries
      (min settings.pageSize largestPage) endpoint 1 left trace result) :
    InOrder client settings q endpoint link trace where
  bare := by
    intro x hx p hp
    obtain ⟨page, -, hpage⟩ := h.exists_page x hx
    rw [hpage] at hp
    exact key_of_mem_pageParameters hp
  page := h.exists_page
  first := h.head?
  steps := h.isChain

variable [Measure α] (settings keys)

/-- The tasks are fetched in order, or the last reply says why they are not. -/
theorem allTasks_sends (plain : client.IsPlain)
    (hendpoint : TaskQuery.endpoint q.scope = .ok endpoint)
    (hlink : client.link? endpoint = some link) (direct : c.network.Direct link) :
    let done := client.allTasks q.scope q.search settings.pageSize settings.maxPages c
    ∃ trace, Sends c trace done.2 ∧ InOrder client settings q endpoint link trace ∧
      (∀ tasks, done.1 = .ok tasks →
        tasks = trace.flatMap fun x => TaskQuery.tasksOf endpoint x.2) ∧
      ∀ failure, done.1 = .error failure →
        ∃ x ∈ trace.getLast?, TaskQuery.readReply endpoint x.2 = .error failure := by
  obtain ⟨trace, sent, fetches⟩ := Client.pagesFrom_sends plain (q := pageQuery settings q)
    hendpoint hlink settings.maxPages.toNat 1 c direct
  rw [pageRequest_eq] at fetches
  exact ⟨trace, sent, inOrder_of_fetches fetches, fun tasks => fetches.eq_flatMap,
    fun failure => fetches.exists_getLast?⟩

/-- What a listing does once the server has failed to apply the filter. -/
theorem runLocally_filtered (plain : client.IsPlain)
    (hendpoint : TaskQuery.endpoint q.scope = .ok endpoint)
    (hlink : client.link? endpoint = some link) (direct : c.network.Direct link)
    {reply : Remote.Reply} {failure : ApiError}
    (read : TaskQuery.readReply endpoint reply = .error failure) :
    let done := (planOf q keys origin e report).runLocally client settings now e failure.message c
    ∃ trace, Sends c trace done.2 ∧ Filtered client settings q endpoint link now keys text e
      ((client.reading link (serverParameters q keys text), reply) :: trace) done.1 := by
  obtain ⟨trace, sent, inOrder, hok, herror⟩ :=
    allTasks_sends settings (q := q) plain hendpoint hlink direct
  dsimp only [Plan.runLocally, planOf]
  generalize client.allTasks q.scope q.search settings.pageSize settings.maxPages c = done
    at sent hok herror
  obtain ⟨result, c'⟩ := done
  cases result with
  | error failure' => exact ⟨trace, sent, .unfetched read inOrder (herror failure' rfl)⟩
  | ok fetched =>
    obtain rfl := hok fetched rfl
    refine ⟨trace, sent, ?_⟩
    dsimp only
    -- what the replies hold is all that there is to select from
    cases hsorted : Task.sortBy? keys (matching endpoint now e trace) with
    | none =>
      rw [selectLocally_of_unordered hsorted]
      exact .unordered read inOrder hsorted
    | some sorted =>
      rw [selectLocally_of_sorted hsorted]
      exact .fallback read inOrder hsorted rfl (Result.reports _)

theorem run_filtered (plain : client.IsPlain)
    (hendpoint : TaskQuery.endpoint q.scope = .ok endpoint)
    (hlink : client.link? endpoint = some link) (direct : c.network.Direct link)
    (given : origin.text? = some text) (hne : text ≠ "") :
    let done := (planOf q keys origin e report).run client settings now c
    ∃ trace, Sends c trace done.2 ∧
      Filtered client settings q endpoint link now keys text e trace done.1 := by
  obtain ⟨trace, reply, sent, tries, hread⟩ := Client.tasks_sends plain
    (q := (planOf q keys origin e report).serverQuery) hendpoint hlink direct
  rw [parameters_serverQuery given hne] at tries
  -- the request with the filter has no retries
  obtain rfl := tries.eq_singleton
  unfold Plan.run
  generalize client.tasks (planOf q keys origin e report).serverQuery c = done at sent hread ⊢
  obtain ⟨result, c'⟩ := done
  dsimp only at sent hread
  subst hread
  cases hresult : TaskQuery.readReply endpoint reply with
  | ok tasks => exact ⟨_, sent, .server hresult (Result.reports _)⟩
  | error failure =>
    obtain ⟨later, sent', filtered⟩ :=
      runLocally_filtered settings keys plain hendpoint hlink (sent.direct direct) hresult
    exact ⟨_, sent.trans sent', filtered⟩

/-- A client that cannot write a link for the endpoint sends nothing, and the listing fails or finds
nothing to select from. -/
theorem run_of_no_link (hendpoint : TaskQuery.endpoint q.scope = .ok endpoint)
    (hlink : client.link? endpoint = none) :
    let done := (planOf q keys origin e report).run client settings now c
    Sends c [] done.2 ∧ ∃ failure : ApiError, done.1 = .error (.unfetched failure.message) ∨
      ∃ result, done.1 = .ok result ∧
        result.Reports false true (some failure.message) (some 0) := by
  obtain ⟨sent, failure, hfailure⟩ := Client.tasks_of_no_link
    (q := (planOf q keys origin e report).serverQuery) hendpoint hlink c
  unfold Plan.run
  generalize client.tasks (planOf q keys origin e report).serverQuery c = done
    at sent hfailure ⊢
  obtain ⟨result, c'⟩ := done
  dsimp only at sent hfailure
  subst hfailure
  obtain ⟨sent', hall⟩ := Client.pagesFrom_of_no_link (q := pageQuery settings q) hendpoint hlink
    settings.maxPages.toNat c'
  dsimp only [planOf, Plan.runLocally, Client.allTasks, pageQuery] at sent' hall ⊢
  generalize client.pagesFrom _ settings.maxPages.toNat c' = done at sent' hall ⊢
  obtain ⟨result, c''⟩ := done
  dsimp only at sent' hall
  rcases hall with rfl | ⟨failure', rfl⟩
  · refine ⟨sent.trans sent', failure, .inr ?_⟩
    dsimp only
    rw [selectLocally_of_sorted (sortBy?_nil keys)]
    exact ⟨_, rfl, Result.reports _⟩
  · exact ⟨sent.trans sent', failure, .inl rfl⟩

end Run

/-- A listing without a filter reports that nobody selected its tasks. -/
theorem reports_of_unfiltered {α : Type} [Measure α] {client : Client α} {settings : Fallback}
    {now : Calendar.Stamp} {p : Plan} {c : Connection α} {result : Result} (hexpr : p.expr = none)
    (h : (p.run client settings now c).1 = .ok result) : result.Reports false false none none := by
  unfold Plan.run at h
  rw [hexpr] at h
  split at h
  · obtain rfl := Except.ok.inj h
    exact Result.reports _
  · exact absurd h (by simp)
  · next heq _ => exact absurd heq (by simp)
  · next heq _ => exact absurd heq (by simp)

/-- Valid arguments name an endpoint. -/
theorem exists_endpoint {q : Query} (h : q.Bounded) :
    ∃ endpoint, TaskQuery.endpoint q.scope = .ok endpoint := by
  cases hscope : q.scope with
  | none => exact ⟨_, rfl⟩
  | some id =>
    have := h.scope id hscope
    rw [TaskQuery.endpoint, if_neg (by omega)]
    exact ⟨_, rfl⟩

end TaskSieve.Listing
