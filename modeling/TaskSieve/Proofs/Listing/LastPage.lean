import TaskSieve.Proofs.Listing.Fallback

set_option autoImplicit false

/-! # The last page of a listing

A caller who turns the pages of a listing may stop at the first that is not full, if the tasks are
narrowed before they are divided into pages: nothing comes after it. A listing without a filter
narrows the pages of the server by `done` instead, so its pages are as short as it happens. -/

namespace TaskSieve.Listing

open TaskSieve.Filter Remote
open Web (Link)

variable {α : Type} [Measure α]

/-- A listing is served page by page from tasks that do not change: from the start if it has no
filter, else as soon as the server has failed to apply it. -/
def Served (client : Client α) (now : Calendar.Stamp) (store : Store) (q : Query)
    (backend : List Datum) (c : Connection α) : Prop :=
  ∀ p, plan now store q = .ok p →
    match p.expr with
    | none => c.network = .serving backend
    | some _ => ∃ failure, FallsBack client p backend failure c

/-- A listing that narrows its tasks before it divides them into pages, if at all. -/
def NarrowsFirst (store : Store) (q : Query) : Prop :=
  q.done = none ∨ ∃ origin text, source store q = .ok origin ∧ origin.text? = some text

/-- The tasks of the server on the page that a listing asks for. -/
def pageOf (q : Query) (backend : List Datum) : List Datum :=
  (backend.drop ((q.page.toNat - 1) * q.perPage.toNat)).take q.perPage.toNat

section Plans

variable {now : Calendar.Stamp} {store : Store} {q : Query} {p : Plan} {backend : List Datum}

/-- A listing that can be prepared has no filter, or one that may be used. -/
theorem unfiltered_or_ready (h : plan now store q = .ok p) :
    ∃ keys origin, sortKeys q = .ok keys ∧ source store q = .ok origin ∧
      (origin.text? = none ∧ p = ⟨q, keys, origin, none, []⟩ ∨
        ∃ text e report, Ready now store q keys origin text e report ∧
          p = planOf q keys origin e report) := by
  obtain ⟨keys, hkeys, hplan⟩ := bind_eq_ok_iff.1 h
  obtain ⟨origin, hsource, hplan⟩ := bind_eq_ok_iff.1 hplan
  refine ⟨keys, origin, hkeys, hsource, ?_⟩
  split at hplan
  · next htext => exact .inl ⟨htext, (Except.ok.inj hplan).symm⟩
  · next text htext =>
    obtain ⟨⟨e, report⟩, haccept, hplan⟩ := bind_eq_ok_iff.1 hplan
    refine .inr ⟨text, e, report, ⟨hkeys, hsource, htext, ?_⟩, (Except.ok.inj hplan).symm⟩
    cases hresult : accept now text with
    | error refusal =>
      rw [hresult] at haccept
      cases haccept
    | ok accepted =>
      rw [hresult] at haccept
      exact congrArg _ (Except.ok.inj haccept)

theorem NarrowsFirst.done_eq_none (h : NarrowsFirst store q) {origin : FilterSource}
    (hsource : source store q = .ok origin) (htext : origin.text? = none) : q.done = none := by
  refine h.resolve_right ?_
  rintro ⟨origin', text, hsource', hsome⟩
  obtain rfl := Except.ok.inj (hsource.symm.trans hsource')
  rw [htext] at hsome
  cases hsome

/-- What the server is asked for are the tasks on the page. -/
theorem items_serverQuery (hq : p.query.Bounded) :
    p.serverQuery.items backend = pageOf p.query backend := by
  obtain ⟨k, hk⟩ := Int.eq_ofNat_of_zero_le (a := p.query.page - 1) (by have := hq.page; omega)
  have hpage : p.query.page = (k : Int) + 1 := by omega
  have hsize : min p.serverQuery.perPage largestPage = p.query.perPage.toNat := by
    have := hq.perPage
    dsimp only [Plan.serverQuery, largestPage]
    omega
  have hquery : p.serverQuery = p.serverQuery.at_ ((k : Int) + 1) := by
    rw [← hpage]
    rfl
  have hnat : p.query.page.toNat - 1 = k := by omega
  rw [hquery, Client.items_at _ hsize, pageOf, hnat]

end Plans

/-! ## Without a filter -/

section Unfiltered

variable {client : Client α} {settings : Fallback} {now : Calendar.Stamp} {p : Plan}
  {backend : List Datum} {c : Connection α}

theorem run_of_expr_none (hexpr : p.expr = none) :
    (p.run client settings now c).1 = match (client.tasks p.serverQuery c).1 with
      | .ok tasks => .ok (p.listing .unfiltered (p.keepDone tasks))
      | .error e => .error (.api e) := by
  rw [Plan.run, hexpr]
  generalize client.tasks p.serverQuery c = done
  obtain ⟨answered, c'⟩ := done
  cases answered <;> rfl

/-- A listing without a filter is what is kept of the page of the server. -/
theorem exists_of_run_unfiltered (hexpr : p.expr = none) (hq : p.query.Bounded)
    (serving : c.network = .serving backend) {result : Result}
    (h : (p.run client settings now c).1 = .ok result) :
    ∃ endpoint link tasks, client.Reaches p.serverQuery endpoint link ∧
      (pageOf p.query backend).map Task.ofDatum = tasks.map .valid ∧
      result.tasks = p.keepDone tasks := by
  rw [run_of_expr_none hexpr] at h
  cases hpage : (client.tasks p.serverQuery c).1 with
  | error e =>
    rw [hpage] at h
    cases h
  | ok tasks =>
    rw [hpage] at h
    obtain ⟨endpoint, link, reaches⟩ := Client.exists_reaches_of_tasks serving hpage
    have hread := (Client.tasks_serving reaches serving).1
    rw [hpage, items_serverQuery hq] at hread
    exact ⟨endpoint, link, tasks, reaches, Client.map_of_decode hread.symm,
      congrArg Result.tasks (Except.ok.inj h).symm⟩

theorem run_unfiltered (hexpr : p.expr = none) (hq : p.query.Bounded)
    (serving : c.network = .serving backend) {endpoint : String} {link : Link} {tasks : List Task}
    (reaches : client.Reaches p.serverQuery endpoint link)
    (decodable : (pageOf p.query backend).map Task.ofDatum = tasks.map .valid) :
    (p.run client settings now c).1 = .ok (p.listing .unfiltered (p.keepDone tasks)) := by
  have hread := (Client.tasks_serving reaches serving).1
  rw [items_serverQuery hq, Client.decode_of_map decodable] at hread
  rw [run_of_expr_none hexpr, hread]

end Unfiltered

/-! ## Through the fallback -/

section Fallback

variable {client : Client α} {settings : Fallback} {now : Calendar.Stamp} {q : Query}
  {keys : List SortKey} {origin : FilterSource} {e : Expr} {report : Report} {backend : List Datum}
  {failure : ApiError} {c c' : Connection α}

/-- What is fetched from a server depends on its tasks alone. -/
theorem allTasks_congr {fetched : List Task} (serving : c.network = .serving backend)
    (serving' : c'.network = .serving backend)
    (h : (client.allTasks q.scope q.search settings.pageSize settings.maxPages c).1 = .ok fetched) :
    (client.allTasks q.scope q.search settings.pageSize settings.maxPages c').1 = .ok fetched := by
  rw [← h]
  unfold Client.allTasks at h ⊢
  generalize settings.maxPages.toNat = left at h ⊢
  cases left with
  | zero => rfl
  | succ left =>
    obtain ⟨batch, hbatch⟩ := Client.exists_tasks_of_pagesFrom h
    obtain ⟨endpoint, link, reaches⟩ := Client.exists_reaches_of_tasks serving hbatch
    exact (Client.pagesFrom_congr reaches (left + 1) serving serving').symm

/-- A listing that falls back selects from what is fetched. -/
theorem run_of_fallsBack (fails : FallsBack client (planOf q keys origin e report) backend failure c) :
    let asked := (client.tasks (planOf q keys origin e report).serverQuery c).2
    ((planOf q keys origin e report).run client settings now c).1 =
      match (client.allTasks q.scope q.search settings.pageSize settings.maxPages asked).1 with
      | .error _ => .error (.unfetched failure.message)
      | .ok fetched => ((planOf q keys origin e report).selectLocally now e fetched).map
          ((planOf q keys origin e report).listing (.fallback failure.message fetched.length)) := by
  have failed := fails.failed
  dsimp only [Plan.run, planOf, Plan.runLocally] at failed ⊢
  generalize client.tasks _ c = asked at failed ⊢
  obtain ⟨answered, c'⟩ := asked
  dsimp only at failed ⊢
  subst failed
  dsimp only
  generalize client.allTasks _ _ _ _ c' = fetched
  obtain ⟨answered, c''⟩ := fetched
  cases answered <;> rfl

/-- A listing that falls back is a page of the selected tasks in order. -/
theorem exists_of_run_fallsBack
    (fails : FallsBack client (planOf q keys origin e report) backend failure c) {result : Result}
    (h : ((planOf q keys origin e report).run client settings now c).1 = .ok result) :
    ∃ fetched sorted,
      (client.allTasks q.scope q.search settings.pageSize settings.maxPages
        (client.tasks (planOf q keys origin e report).serverQuery c).2).1 = .ok fetched ∧
      Task.sortBy? keys (fetched.filter fun t => e.matches now t.toFields) = some sorted ∧
      result.tasks = Page.ofList q.page q.perPage sorted := by
  rw [run_of_fallsBack fails] at h
  split at h
  · cases h
  next fetched hfetched =>
  refine ⟨fetched, ?_⟩
  cases hsorted : Task.sortBy? keys (fetched.filter fun t => e.matches now t.toFields) with
  | none =>
    rw [selectLocally_of_unordered hsorted] at h
    cases h
  | some sorted =>
    rw [selectLocally_of_sorted hsorted] at h
    exact ⟨sorted, hfetched, rfl, congrArg Result.tasks (Except.ok.inj h).symm⟩

theorem exists_run_of_fetched
    (fails : FallsBack client (planOf q keys origin e report) backend failure c)
    {fetched sorted : List Task}
    (hfetched : (client.allTasks q.scope q.search settings.pageSize settings.maxPages
      (client.tasks (planOf q keys origin e report).serverQuery c).2).1 = .ok fetched)
    (hsorted : Task.sortBy? keys (fetched.filter fun t => e.matches now t.toFields) = some sorted) :
    ∃ result, ((planOf q keys origin e report).run client settings now c).1 = .ok result ∧
      result.tasks = Page.ofList q.page q.perPage sorted := by
  rw [run_of_fallsBack fails, hfetched]
  dsimp only
  rw [selectLocally_of_sorted hsorted]
  exact ⟨_, rfl, rfl⟩

end Fallback

/-! ## Later pages -/

/-- The tasks of the server on a page behind one that is not full. -/
theorem pageOf_of_short {q : Query} {backend : List Datum} (hq : q.Bounded) {page : Int}
    (later : q.page < page) (short : (pageOf q backend).length < q.perPage.toNat) :
    pageOf { q with page } backend = [] := by
  have := hq.page
  rw [pageOf, Page.drop_of_short short (by dsimp only; omega), List.take_nil]

/-- A page of a list behind one that is not full. -/
theorem ofList_of_short {q : Query} (hq : q.Bounded) {page : Int} (later : q.page < page)
    {tasks : List Task} (short : ((Page.ofList q.page q.perPage tasks).length : Int) < q.perPage) :
    Page.ofList page q.perPage tasks = [] := by
  have hpage := hq.page
  obtain ⟨i, hi⟩ := Int.eq_ofNat_of_zero_le (a := q.page - 1) (by omega)
  obtain ⟨j, hj⟩ := Int.eq_ofNat_of_zero_le (a := page - 1) (by omega)
  obtain ⟨n, hn⟩ := Int.eq_ofNat_of_zero_le (a := q.perPage) (by have := hq.perPage; omega)
  obtain rfl : page = (j : Int) + 1 := by omega
  rw [show q.page = (i : Int) + 1 by omega, hn, Page.ofList_succ] at short
  have hshort : ((tasks.drop (i * n)).take n).length < n := by omega
  rw [hn, Page.ofList_succ, Page.drop_of_short hshort (by omega), List.take_nil]

section Later

variable {client : Client α} {settings : Fallback} {now : Calendar.Stamp} {store : Store}
  {q : Query} {page : Int} {keys : List SortKey} {origin : FilterSource} {backend : List Datum}
  {c c' : Connection α} {result : Result}

/-- Without a filter a page of the server that is not full is the last one with tasks. -/
theorem run_later_of_unfiltered (hq : q.Bounded) (hq' : { q with page }.Bounded)
    (later : q.page < page) (serving : c.network = .serving backend)
    (serving' : c'.network = .serving backend)
    (h : (Plan.run client settings now ⟨q, keys, origin, none, []⟩ c).1 = .ok result) :
    ∃ tasks : List Task, (pageOf q backend).map Task.ofDatum = tasks.map .valid ∧
      result.tasks = tasks.filter (fun t => q.done.all (t.done == ·)) ∧
      ((pageOf q backend).length < q.perPage.toNat → ∃ result',
        (Plan.run client settings now ⟨{ q with page }, keys, origin, none, []⟩ c').1 =
          .ok result' ∧ result'.tasks = []) := by
  obtain ⟨endpoint, link, tasks, reaches, decodable, htasks⟩ :=
    exists_of_run_unfiltered rfl hq serving h
  refine ⟨tasks, decodable, ?_, fun short => ?_⟩
  · rw [htasks, Plan.keepDone]
    cases q.done <;> simp
  · have hempty : (pageOf { q with page } backend).map Task.ofDatum =
        ([] : List Task).map .valid := by
      rw [pageOf_of_short hq later short]
      rfl
    refine ⟨_, run_unfiltered rfl hq' serving' (reaches.at_ page) hempty, ?_⟩
    dsimp only [Plan.listing, Plan.keepDone]
    cases q.done <;> rfl

/-- Through the fallback a page that is not full is the last one with tasks. -/
theorem run_later_of_fallsBack {e : Expr} {report : Report} {failure failure' : ApiError}
    (hq : q.Bounded) (later : q.page < page)
    (fails : FallsBack client (planOf q keys origin e report) backend failure c)
    (fails' : FallsBack client (planOf { q with page } keys origin e report) backend failure' c')
    (h : ((planOf q keys origin e report).run client settings now c).1 = .ok result)
    (short : result.tasks.length < q.perPage) :
    ∃ result', ((planOf { q with page } keys origin e report).run client settings now c').1 =
      .ok result' ∧ result'.tasks = [] := by
  obtain ⟨fetched, sorted, hfetched, hsorted, htasks⟩ := exists_of_run_fallsBack fails h
  have hfetched' := allTasks_congr fails.serving fails'.serving hfetched
  obtain ⟨result', hrun, htasks'⟩ := exists_run_of_fetched fails' hfetched' hsorted
  rw [htasks] at short
  exact ⟨result', hrun, htasks'.trans (ofList_of_short hq later short)⟩

end Later

/-- Turning the pages of a listing: behind a page that is not full there is none with a task, if the
listing narrows its tasks before it divides them into pages. A listing without a filter has the tasks
on the page of the server that are as done as it asks for, so there it is the page of the server that
has to be short. -/
theorem ofCall_last_page (client : Client α) (settings : Fallback) (now : Calendar.Stamp)
    (store : Store) (arguments arguments' : Fields) (q : Query) (page : Int)
    (backend : List Datum) (c c' : Connection α) (valid : Query.ofFields arguments = .valid q)
    (valid' : Query.ofFields arguments' = .valid { q with page }) (later : q.page < page)
    (served : Served client now store q backend c)
    (served' : Served client now store { q with page } backend c') {result : Result}
    (answered : (ListingRun.ofCall client settings now store arguments c).answer = .ok result) :
    let answer' := (ListingRun.ofCall client settings now store arguments' c').answer
    (NarrowsFirst store q → result.tasks.length < q.perPage →
      ∃ result', answer' = .ok result' ∧ result'.tasks = []) ∧
    ∀ origin, source store q = .ok origin → origin.text? = none →
      ∃ tasks : List Task, (pageOf q backend).map Task.ofDatum = tasks.map .valid ∧
        result.tasks = tasks.filter (fun t => q.done.all (t.done == ·)) ∧
        ((pageOf q backend).length < q.perPage.toNat →
          ∃ result', answer' = .ok result' ∧ result'.tasks = []) := by
  have hq := Query.bounded_of_ofFields valid
  have hq' := Query.bounded_of_ofFields valid'
  dsimp only
  rw [ListingRun.answer_ofCall valid', produce]
  rw [ListingRun.answer_ofCall valid, produce] at answered
  split at answered
  · cases answered
  next p hplan =>
  have serving := served p hplan
  obtain ⟨keys, origin, hkeys, hsource, ⟨htext, rfl⟩ | ⟨text, e, report, ready, rfl⟩⟩ :=
    unfiltered_or_ready hplan
  · have hplan' : plan now store { q with page } = .ok ⟨{ q with page }, keys, origin, none, []⟩ :=
      plan_of_unfiltered hkeys hsource htext
    have hrun := run_later_of_unfiltered hq hq' later serving (served' _ hplan') answered
    rw [hplan']
    refine ⟨fun narrows short => ?_, fun _ _ _ => hrun⟩
    obtain ⟨tasks, decodable, htasks, hlater⟩ := hrun
    -- nothing is taken from the page of the server
    have hlength : result.tasks.length = (pageOf q backend).length := by
      rw [htasks, narrows.done_eq_none hsource htext, length_of_decodable decodable]
      exact congrArg _ (List.filter_eq_self.2 fun _ _ => rfl)
    exact hlater (by omega)
  · have ready' : Ready now store { q with page } keys origin text e report :=
      ⟨ready.sort, ready.lookup, ready.given, ready.accepted⟩
    have hplan' := plan_of_ready ready'
    obtain ⟨failure, fails⟩ := serving
    obtain ⟨failure', fails'⟩ := served' _ hplan'
    rw [hplan']
    refine ⟨fun _ short => run_later_of_fallsBack hq later fails fails' answered short,
      fun origin' hsource' hnone => ?_⟩
    obtain rfl := Except.ok.inj (hsource.symm.trans hsource')
    rw [ready.given] at hnone
    cases hnone

/-- Three tasks on pages of two: the second page has one, and the third has none. -/
theorem ofCall_last_page_of_three :
    let client : Client Rat :=
      ⟨"https://v.example.com/api/v1", "tok", "sieve", ⟨60, 10, by decide, by decide⟩, 2, 1⟩
    let backend := [1, 2, 3].map fun id => Datum.record [("id", .int id)]
    let c := client.connect (.serving backend) 0
    let listing (page : Int) := (ListingRun.ofCall client {} (.ofDay 738000 none) []
      [("page", .int page), ("per_page", .int 2)] c).answer
    ((tasksIn (listing 2)).map Task.id = [3]) ∧
      ∃ result, listing 3 = .ok result ∧ result.tasks = [] := by
  intro client backend c listing
  have linked : (Client.link? (⟨"https://v.example.com/api/v1", "tok", "sieve",
      ⟨60, 10, by decide, by decide⟩, 2, 1⟩ : Client Rat) "tasks/all").any
        (fun link => link.scheme ≠ "") = true := by decide +kernel
  obtain ⟨link, hlink, hscheme⟩ := (Option.any_eq_true _ _).1 linked
  let q : Query := { page := 2, perPage := 2 }
  let p : Plan := ⟨q, [], .none, none, []⟩
  have hquery : Query.ofFields [("page", .int 2), ("per_page", .int 2)] = .valid q := rfl
  have reaches : client.Reaches p.serverQuery "tasks/all" link := by
    refine ⟨⟨?_, ?_⟩, rfl, hlink, of_decide_eq_true hscheme⟩
    · show isHeaderText "tok" = true
      decide
    · show isHeaderText "sieve" = true
      decide
  have served : ∀ page, Served client (.ofDay 738000 none) [] { q with page } backend c := by
    intro page p hplan
    cases hplan
    rfl
  have answered : listing 2 = .ok (p.listing .unfiltered [plainTask 3 "" false]) :=
    run_unfiltered rfl (Query.bounded_of_ofFields hquery) rfl reaches rfl
  have last := (ofCall_last_page client {} (.ofDay 738000 none) [] _
    [("page", .int 3), ("per_page", .int 2)] q 3 backend c c hquery rfl (by decide) (served 2)
    (served 3) answered).1 (.inl rfl) (by decide)
  exact ⟨by rw [answered]; rfl, last⟩

end TaskSieve.Listing
