import TaskSieve.Proofs.Listing.Fallback
import TaskSieve.Proofs.Task.Dates

set_option autoImplicit false

/-! # How a listing by a filter ends

Once the arguments of a listing are known to be valid, whatever the replies are, it ends in one of
four ways: with what the server selected, with what is selected here, because neither attempt gave
tasks, or because the tasks to be sorted have dates of both kinds. -/

namespace TaskSieve.Listing

open TaskSieve.Filter Remote
open Web (Link)

/-- How a listing by a filter ends, told from what asking the server with the filter and fetching
without it come to. -/
inductive Outcome (now : Calendar.Stamp) (q : Query) (keys : List SortKey) (e : Expr)
    (attempt fetch : Except ApiError (List Task)) : Except ListingError Result → Prop
  /-- The server selects the tasks. -/
  | server {result : Result} (asked : attempt = .ok result.tasks)
      (used : result.selection = .server) : Outcome now q keys e attempt fetch (.ok result)
  /-- Neither gives tasks. -/
  | unfetched {failure failure' : ApiError} (asked : attempt = .error failure)
      (failed : fetch = .error failure') :
      Outcome now q keys e attempt fetch (.error (.unfetched failure.message))
  /-- The fetched tasks that match are sorted and paged. -/
  | fallback {failure : ApiError} {tasks sorted : List Task} {result : Result}
      (asked : attempt = .error failure) (fetched : fetch = .ok tasks)
      (alike : ¬ Task.Mixed keys (tasks.filter fun t => e.matches now t.toFields))
      (ordered : Task.sortBy? keys (tasks.filter fun t => e.matches now t.toFields) = some sorted)
      (page : result.tasks = Page.ofList q.page q.perPage sorted)
      (used : result.selection = .fallback failure.message tasks.length) :
      Outcome now q keys e attempt fetch (.ok result)
  /-- The fetched tasks that match have dates with and without an offset under a sort key. -/
  | mixed {failure : ApiError} {tasks : List Task} (asked : attempt = .error failure)
      (fetched : fetch = .ok tasks)
      (mixed : Task.Mixed keys (tasks.filter fun t => e.matches now t.toFields)) :
      Outcome now q keys e attempt fetch (.error .unordered)

variable {α : Type} [Measure α] {client : Client α} {settings : Fallback} {now : Calendar.Stamp}
  {q : Query} {keys : List SortKey} {origin : FilterSource} {text : String}
  {e : Expr} {report : Report} {c : Connection α}

theorem run_outcome (declared : ∀ k ∈ keys, k.field ≠ .position) :
    let asked := client.tasks (planOf q keys origin e report).serverQuery c
    let fetched := client.allTasks q.scope q.search settings.pageSize settings.maxPages asked.2
    Outcome now q keys e asked.1 fetched.1
      ((planOf q keys origin e report).run client settings now c).1 := by
  dsimp only [Plan.run, Plan.runLocally, planOf]
  generalize client.tasks _ c = asked
  obtain ⟨answered, c'⟩ := asked
  cases answered with
  | ok tasks => exact .server rfl rfl
  | error failure =>
    dsimp only
    generalize client.allTasks _ _ _ _ c' = fetched
    obtain ⟨answered, c''⟩ := fetched
    cases answered with
    | error failure' => exact .unfetched rfl rfl
    | ok tasks =>
      dsimp only
      cases hsorted : Task.sortBy? keys (tasks.filter fun t => e.matches now t.toFields) with
      | none =>
        rw [selectLocally_of_unordered hsorted]
        exact .mixed rfl rfl ((Task.sortBy?_eq_none_iff declared).1 hsorted)
      | some sorted =>
        rw [selectLocally_of_sorted hsorted]
        refine .fallback rfl rfl (fun hmixed => ?_) hsorted rfl rfl
        have hnone := (Task.sortBy?_eq_none_iff declared).2 hmixed
        exact absurd (hsorted.symm.trans hnone) (by simp)

/-- A valid listing by a filter, sorted by declared fields, succeeds or reports that neither attempt
gave tasks, whatever the replies are, unless the tasks that are selected here have dates with and
without an offset under a sort key. -/
theorem ofCall_outcome (client : Client α) (settings : Fallback) (now : Calendar.Stamp)
    (store : Store) (arguments : Fields) (q : Query) (c : Connection α)
    (valid : Query.ofFields arguments = .valid q) (ready : Ready now store q keys origin text e report)
    (declared : ∀ k ∈ keys, k.field ≠ .position) :
    let asked := client.tasks (planOf q keys origin e report).serverQuery c
    let fetched := client.allTasks q.scope q.search settings.pageSize settings.maxPages asked.2
    Outcome now q keys e asked.1 fetched.1
      (ListingRun.ofCall client settings now store arguments c).answer := by
  rw [ListingRun.answer_ofCall valid, produce, plan_of_ready ready]
  exact run_outcome declared

/-- A task that is due at a time with an offset, and one that is due at a time without. -/
theorem ofCall_outcome_of_mixed_dates :
    let client : Client Rat :=
      ⟨"https://v.example.com/api/v1", "tok", "sieve", ⟨60, 10, by decide, by decide⟩, 2, 1⟩
    let backend := ["2024-05-20T10:00:00", "2024-05-16T10:00:00Z"].map fun due =>
      Datum.record [("id", .int 1), ("due_date", .text due)]
    let c := client.connect ⟨[.answered 400 none .empty], some backend⟩ 0
    (ListingRun.ofCall client {} (.ofDay 738000 none) []
      [("filter", .text "done = false"), ("sort", .text "due_date")] c).answer =
        .error .unordered := by
  intro client backend c
  let q : Query := { filter := some "done = false", sort := some "due_date" }
  let due (s : Calendar.Stamp) : Task := { plainTask 1 "" false with dueDate := some s }
  have accepted : accept (.ofDay 738000 none) "done = false" =
      .ok (.leaf ⟨.done, .eq, .one (.bool false)⟩, {}) := by decide +kernel
  have linked : (Client.link? (⟨"https://v.example.com/api/v1", "tok", "sieve",
      ⟨60, 10, by decide, by decide⟩, 2, 1⟩ : Client Rat) "tasks/all").any
        (fun link => link.scheme ≠ "") = true := by decide +kernel
  obtain ⟨link, hlink, hscheme⟩ := (Option.any_eq_true _ _).1 linked
  have reaches : client.Reaches (pageQuery {} q) "tasks/all" link := by
    refine ⟨⟨?_, ?_⟩, rfl, hlink, of_decide_eq_true hscheme⟩
    · show isHeaderText "tok" = true
      decide
    · show isHeaderText "sieve" = true
      decide
  have decodable : backend.map Task.ofDatum =
      [due ⟨63851796000000000, none⟩, due ⟨63851450400000000, some 0⟩].map .valid := by
    rfl
  have fails : FallsBack client (planOf q [⟨.dueDate, false⟩] (.inline "done = false")
      (.leaf ⟨.done, .eq, .one (.bool false)⟩) {}) backend (.status 400) c :=
    fallsBack_of_status (.inr (by decide)) reaches rfl
  have ready : Ready (.ofDay 738000 none) [] q [⟨.dueDate, false⟩] (.inline "done = false")
      "done = false" _ {} := ⟨rfl, rfl, rfl, accepted⟩
  have outcome := ofCall_outcome client {} (.ofDay 738000 none) []
    [("filter", .text "done = false"), ("sort", .text "due_date")] q c rfl ready fun k hk => by
      rw [List.mem_singleton.1 hk]
      decide
  have hfetch := (allTasks_serving reaches decodable (by decide) fails.serving).1
  dsimp only at outcome
  rw [fails.failed, hfetch] at outcome
  generalize (ListingRun.ofCall client _ _ _ _ c).answer = answer at outcome
  have offsets : Task.Mixed [⟨.dueDate, false⟩]
      ((Fallback.fetched {} [due ⟨63851796000000000, none⟩, due ⟨63851450400000000, some 0⟩]).filter
        fun t => (Expr.leaf ⟨.done, .eq, .one (.bool false)⟩).matches (.ofDay 738000 none)
          t.toFields) :=
    ⟨_, List.mem_singleton_self _, due ⟨63851450400000000, some 0⟩,
      List.mem_filter.2 ⟨.tail _ (.head _), by decide +kernel⟩, due ⟨63851796000000000, none⟩,
      List.mem_filter.2 ⟨.head _, by decide +kernel⟩, _, _, rfl, rfl, rfl, rfl⟩
  cases outcome with
  | server asked _ => cases asked
  | unfetched _ failed => cases failed
  | fallback _ fetched alike =>
    cases fetched
    exact absurd offsets alike
  | mixed _ _ _ => rfl

end TaskSieve.Listing
