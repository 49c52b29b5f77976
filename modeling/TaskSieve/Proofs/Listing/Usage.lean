import TaskSieve.Listing.Run
import TaskSieve.Proofs.Remote.Trace

set_option autoImplicit false

/-! # Uses of a client

A client is used for single calls, for pages of tasks and for listings, and time passes between its
uses. Whatever a use does to a connection it does by attempts and by pauses between them. So a
relation between the connections of two clients that their attempts and pauses keep is kept by all
uses, and both clients tell the same. -/

namespace TaskSieve.Listing

open Remote
open Client (pausedFor)

/-- What a client is used for. -/
inductive Use where
  | call (call : Call)
  | tasks (query : TaskQuery)
  | allTasks (project : Option Int) (search : Option String) (pageSize maxPages : Int)
  | connectivity
  | listing (settings : Fallback) (now : Calendar.Stamp) (store : Store) (arguments : Fields)

/-- What a use tells. -/
inductive Shown where
  | value (result : Except ApiError Datum)
  | tasks (result : Except ApiError (List Task))
  | reached (answer : Bool)
  | listing (answer : Except ListingError Result) (notes : List Note)

/-- A use, and the time that passes before it. -/
structure Visit (α : Type) where
  idle : α
  use : Use

section

variable {α : Type} [Measure α]

/-- Uses a client: what is told, and the connection afterwards. -/
def Use.run (client : Client α) (c : Connection α) : Use → Shown × Connection α
  | .call asked =>
    let (result, c) := client.run asked c
    (.value result, c)
  | .tasks query =>
    let (result, c) := client.tasks query c
    (.tasks result, c)
  | .allTasks project search pageSize maxPages =>
    let (result, c) := client.allTasks project search pageSize maxPages c
    (.tasks result, c)
  | .connectivity =>
    let (answer, c) := client.testConnectivity c
    (.reached answer, c)
  | .listing settings now store arguments =>
    let done := ListingRun.ofCall client settings now store arguments c
    (.listing done.answer done.notes, done.connection)

/-- The connection after some time without any use. -/
def waited (c : Connection α) (seconds : α) : Connection α := { c with clock := c.clock + seconds }

/-- Uses a client again and again. -/
def visits (client : Client α) (c : Connection α) : List (Visit α) → List Shown × Connection α
  | [] => ([], c)
  | v :: rest =>
    let (shown, c) := v.use.run client (waited c v.idle)
    let (later, c) := visits client c rest
    (shown :: later, c)

theorem visits_cons (client : Client α) (c : Connection α) (v : Visit α) (rest : List (Visit α)) :
    visits client c (v :: rest) =
      ((v.use.run client (waited c v.idle)).1 ::
        (visits client (v.use.run client (waited c v.idle)).2 rest).1,
      (visits client (v.use.run client (waited c v.idle)).2 rest).2) := rfl

end

/-! ## Two clients in step -/

/-- Results are equal, and the connections are related. -/
def Agree {α β : Type} (Related : Connection α → Connection α → Prop)
    (x x' : β × Connection α) : Prop := x.1 = x'.1 ∧ Related x.2 x'.2

/-- Attempts and pauses of two clients give equal replies and keep a relation between their
connections; the pauses that are made have some property. -/
structure InStep {α : Type} [Measure α] (client client' : Client α) (Made : α → Prop)
    (Related : Connection α → Connection α → Prop) : Prop where
  retries : client.retries = client'.retries
  backoffStart : client.backoffStart = client'.backoffStart
  first : Made client.backoffStart
  doubled : ∀ pause, Made pause → Made (pause * ((2 : Nat) : α))
  attempt : ∀ call c c', Related c c' →
    Agree Related (client.attempt call c) (client'.attempt call c')
  paused : ∀ pause c c', Made pause → Related c c' →
    Related (pausedFor c pause) (pausedFor c' pause)

namespace InStep

variable {α : Type} [Measure α] {client client' : Client α} {Made : α → Prop}
  {Related : Connection α → Connection α → Prop} {c c' : Connection α}

theorem attempts (step : InStep client client' Made Related) (call : Call) (retries : Nat)
    {pause : α} (made : Made pause) (h : Related c c') :
    Agree Related (client.attempts call retries pause c)
      (client'.attempts call retries pause c') := by
  induction retries generalizing pause c c' with
  | zero =>
    rw [Client.attempts_zero, Client.attempts_zero]
    exact step.attempt call c c' h
  | succ retries ih =>
    obtain ⟨reply, related⟩ := step.attempt call c c' h
    rw [Client.attempts_succ, Client.attempts_succ, ← reply]
    by_cases transient : Client.isTransient (client.attempt call c).1 = true
    · rw [if_pos transient, if_pos transient]
      exact ih (step.doubled pause made) (step.paused pause _ _ made related)
    · rw [if_neg transient, if_neg transient]
      exact ⟨reply, related⟩

theorem run (step : InStep client client' Made Related) (call : Call) (h : Related c c') :
    Agree Related (client.run call c) (client'.run call c') := by
  obtain ⟨reply, related⟩ :=
    step.attempts call (if call.retry then client.retries else 0) step.first h
  show Agree Related
    (Client.settle call (client.attempts call (if call.retry then client.retries else 0)
      client.backoffStart c).1, _)
    (Client.settle call (client'.attempts call (if call.retry then client'.retries else 0)
      client'.backoffStart c').1, _)
  rw [← step.retries, ← step.backoffStart, ← reply]
  exact ⟨rfl, related⟩

theorem tasks (step : InStep client client' Made Related) (q : TaskQuery) (h : Related c c') :
    Agree Related (client.tasks q c) (client'.tasks q c') := by
  rw [Client.tasks, Client.tasks]
  cases TaskQuery.endpoint q.project with
  | error e => exact ⟨rfl, h⟩
  | ok endpoint =>
    obtain ⟨result, related⟩ := step.run ⟨"GET", endpoint, none, some q.parameters, q.retry⟩ h
    exact ⟨congrArg (·.bind (TaskQuery.decode endpoint)) result, related⟩

theorem pagesFrom (step : InStep client client' Made Related) (q : TaskQuery) (left : Nat)
    (h : Related c c') :
    Agree Related (client.pagesFrom q left c) (client'.pagesFrom q left c') := by
  induction left generalizing q c c' with
  | zero => exact ⟨rfl, h⟩
  | succ left ih =>
    have first := step.tasks q h
    rw [Client.pagesFrom, Client.pagesFrom]
    generalize client.tasks q c = page at first
    generalize client'.tasks q c' = page' at first
    obtain ⟨result, c₁⟩ := page
    obtain ⟨result', c₁'⟩ := page'
    obtain ⟨rfl, related⟩ := first
    cases result with
    | error e => exact ⟨rfl, related⟩
    | ok batch =>
      by_cases short : (batch.length : Int) < q.perPage
      · simp only [if_pos short]
        exact ⟨rfl, related⟩
      · obtain ⟨rest, related'⟩ := ih { q with page := q.page + 1 } related
        simp only [if_neg short]
        exact ⟨congrArg (·.map (batch ++ ·)) rest, related'⟩

theorem allTasks (step : InStep client client' Made Related) (project : Option Int)
    (search : Option String) (pageSize maxPages : Int) (h : Related c c') :
    Agree Related (client.allTasks project search pageSize maxPages c)
      (client'.allTasks project search pageSize maxPages c') :=
  step.pagesFrom _ _ h

theorem testConnectivity (step : InStep client client' Made Related) (h : Related c c') :
    Agree Related (client.testConnectivity c) (client'.testConnectivity c') := by
  have told := step.run ⟨"GET", "info", none, none, true⟩ h
  rw [Client.testConnectivity, Client.testConnectivity]
  generalize client.run ⟨"GET", "info", none, none, true⟩ c = done at told
  generalize client'.run ⟨"GET", "info", none, none, true⟩ c' = done' at told
  obtain ⟨result, c₁⟩ := done
  obtain ⟨result', c₁'⟩ := done'
  obtain ⟨rfl, related⟩ := told
  cases result with
  | error e => exact ⟨rfl, related⟩
  | ok answer => cases answer <;> exact ⟨rfl, related⟩

/-! ## Listings -/

theorem runLocally (step : InStep client client' Made Related) (settings : Fallback)
    (now : Calendar.Stamp) (p : Plan) (e : Filter.Expr) (serverError : String) (h : Related c c') :
    Agree Related (p.runLocally client settings now e serverError c)
      (p.runLocally client' settings now e serverError c') := by
  have fetched := step.allTasks p.query.scope p.query.search settings.pageSize settings.maxPages h
  rw [Plan.runLocally, Plan.runLocally]
  generalize client.allTasks p.query.scope p.query.search settings.pageSize settings.maxPages c =
    done at fetched
  generalize client'.allTasks p.query.scope p.query.search settings.pageSize settings.maxPages c' =
    done' at fetched
  obtain ⟨result, c₁⟩ := done
  obtain ⟨result', c₁'⟩ := done'
  obtain ⟨rfl, related⟩ := fetched
  cases result with
  | error e => exact ⟨rfl, related⟩
  | ok tasks => exact ⟨rfl, related⟩

theorem planned (step : InStep client client' Made Related) (settings : Fallback)
    (now : Calendar.Stamp) (p : Plan) (h : Related c c') :
    Agree Related (p.run client settings now c) (p.run client' settings now c') := by
  have served := step.tasks p.serverQuery h
  rw [Plan.run, Plan.run]
  generalize client.tasks p.serverQuery c = done at served
  generalize client'.tasks p.serverQuery c' = done' at served
  obtain ⟨result, c₁⟩ := done
  obtain ⟨result', c₁'⟩ := done'
  obtain ⟨rfl, related⟩ := served
  cases p.expr with
  | none => cases result <;> exact ⟨rfl, related⟩
  | some e =>
    cases result with
    | ok tasks => exact ⟨rfl, related⟩
    | error failure => exact step.runLocally settings now p e failure.message related

theorem produce (step : InStep client client' Made Related) (settings : Fallback)
    (now : Calendar.Stamp) (store : Store) (q : Query) (h : Related c c') :
    Agree Related (produce client settings now store q c)
      (produce client' settings now store q c') := by
  rw [Listing.produce, Listing.produce]
  cases plan now store q with
  | error e => exact ⟨rfl, h⟩
  | ok p => exact step.planned settings now p h

theorem listing (step : InStep client client' Made Related) (settings : Fallback)
    (now : Calendar.Stamp) (store : Store) (arguments : Fields) (h : Related c c') :
    Agree Related ((Use.listing settings now store arguments).run client c)
      ((Use.listing settings now store arguments).run client' c') := by
  simp only [Use.run, ListingRun.ofCall]
  cases Query.ofFields arguments with
  | invalid issues => exact ⟨rfl, h⟩
  | valid q =>
    obtain ⟨answer, related⟩ := step.produce settings now store q h
    dsimp only
    rw [← answer]
    exact ⟨rfl, related⟩

/-! ## All uses -/

/-- Clients that are in step tell the same in every use. -/
theorem use (step : InStep client client' Made Related) (u : Use) (h : Related c c') :
    Agree Related (u.run client c) (u.run client' c') := by
  cases u with
  | call call =>
    obtain ⟨result, related⟩ := step.run call h
    exact ⟨congrArg Shown.value result, related⟩
  | tasks query =>
    obtain ⟨result, related⟩ := step.tasks query h
    exact ⟨congrArg Shown.tasks result, related⟩
  | allTasks project search pageSize maxPages =>
    obtain ⟨result, related⟩ := step.allTasks project search pageSize maxPages h
    exact ⟨congrArg Shown.tasks result, related⟩
  | connectivity =>
    obtain ⟨answer, related⟩ := step.testConnectivity h
    exact ⟨congrArg Shown.reached answer, related⟩
  | listing settings now store arguments => exact step.listing settings now store arguments h

end InStep

end TaskSieve.Listing
