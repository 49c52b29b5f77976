import Mathlib.Data.List.Chain
import TaskSieve.Proofs.Remote.Trace
import TaskSieve.Remote.Tasks

set_option autoImplicit false

/-! # Fetching page by page

All tasks are fetched in the order of their pages. Two requests that follow each other are for the
same page only if the first one failed transiently, and for a page and the next one only if the
first one gave a full page; what is fetched is what the replies hold, in the order in which they
came. -/

namespace TaskSieve.Remote

open Web (Link)

/-! ## One page -/

namespace TaskQuery

/-- The query for another page. -/
def at_ (q : TaskQuery) (page : Int) : TaskQuery := { q with page }

/-- What a reply from an endpoint holds. -/
def readReply (endpoint : String) (reply : Reply) : Except ApiError (List Task) :=
  (Client.settle (Client.readingCall endpoint [] true) reply).bind (decode endpoint)

/-- The tasks that a reply holds, none if it holds no list of tasks. -/
def tasksOf (endpoint : String) (reply : Reply) : List Task :=
  (readReply endpoint reply).toOption.getD []

/-- A reply that looks transient holds no tasks. -/
theorem exists_error_of_isTransient {endpoint : String} {reply : Reply}
    (h : Client.isTransient reply = true) : ∃ e, readReply endpoint reply = .error e := by
  match reply with
  | .timeout => exact ⟨_, rfl⟩
  | .unreachable => exact ⟨_, rfl⟩
  | .broken => exact absurd h (by decide)
  | .answered status body =>
    have hstatus : status < 200 ∨ 300 ≤ status := by
      simp only [Client.isTransient, List.contains_eq_mem, decide_eq_true_eq, List.mem_cons,
        List.not_mem_nil, or_false] at h
      omega
    refine ⟨.status status, ?_⟩
    rw [readReply, Client.settle, if_pos hstatus]
    rfl

theorem tasksOf_of_error {endpoint : String} {reply : Reply} {e : ApiError}
    (h : readReply endpoint reply = .error e) : tasksOf endpoint reply = [] := by
  rw [tasksOf, h]
  rfl

theorem tasksOf_of_ok {endpoint : String} {reply : Reply} {tasks : List Task}
    (h : readReply endpoint reply = .ok tasks) : tasksOf endpoint reply = tasks := by
  rw [tasksOf, h]
  rfl

end TaskQuery

namespace Client

variable {α : Type} [Measure α] {client : Client α} {endpoint : String} {link : Link}

/-- What a reply holds does not depend on the parameters of the request. -/
theorem settle_readingCall (parameters : List (String × String)) (retry : Bool) (reply : Reply) :
    settle (readingCall endpoint parameters retry) reply =
      settle (readingCall endpoint [] true) reply := by
  cases reply <;> rfl

/-- How often a query may be tried again. -/
def retriesFor (client : Client α) (q : TaskQuery) : Nat := if q.retry then client.retries else 0

theorem tasks_eq {q : TaskQuery} (hendpoint : TaskQuery.endpoint q.project = .ok endpoint)
    (c : Connection α) :
    client.tasks q c =
      let done := client.attempts (readingCall endpoint q.parameters q.retry)
        (client.retriesFor q) client.backoffStart c
      (TaskQuery.readReply endpoint done.1, done.2) := by
  simp only [tasks, hendpoint, run, TaskQuery.readReply, ← settle_readingCall q.parameters q.retry]
  rfl

/-- A page is asked for with one request, which is repeated while its replies look transient. -/
theorem tasks_sends (plain : client.IsPlain) {q : TaskQuery}
    (hendpoint : TaskQuery.endpoint q.project = .ok endpoint)
    (hlink : client.link? endpoint = some link) {c : Connection α}
    (direct : c.network.Direct link) :
    ∃ trace reply, Sends c trace (client.tasks q c).2 ∧
      Tries (client.reading link q.parameters) (client.retriesFor q) trace reply ∧
      (client.tasks q c).1 = TaskQuery.readReply endpoint reply := by
  have hr := request?_of_link plain hlink q.parameters q.retry
  obtain ⟨trace, sent, tries⟩ :=
    attempts_sends hr (client.retriesFor q) client.backoffStart c direct
  rw [tasks_eq hendpoint]
  exact ⟨trace, _, sent, tries, rfl⟩

/-- Without a link nothing is sent, and there is no page. -/
theorem tasks_of_no_link {q : TaskQuery}
    (hendpoint : TaskQuery.endpoint q.project = .ok endpoint) (hlink : client.link? endpoint = none)
    (c : Connection α) :
    Sends c [] (client.tasks q c).2 ∧ ∃ e, (client.tasks q c).1 = .error e := by
  have hr := request?_of_no_link hlink q.parameters q.retry
  obtain ⟨broken, sent⟩ :=
    attempts_of_none hr (client.retriesFor q) client.backoffStart (c := c)
  rw [tasks_eq hendpoint]
  refine ⟨sent, ?_⟩
  dsimp only
  rw [broken]
  exact ⟨_, rfl⟩

/-! ## All pages -/

/-- A fetch of pages: each one is asked for until it is settled, and one that is full is followed by
the next, as long as pages are left. -/
inductive Fetches (asked : Int → Request) (retries : Nat) (size : Int) (endpoint : String) :
    Int → Nat → Trace → Except ApiError (List Task) → Prop
  | done {page : Int} : Fetches asked retries size endpoint page 0 [] (.ok [])
  | failed {page : Int} {left : Nat} {trace : Trace} {reply : Reply} {e : ApiError}
      (tries : Tries (asked page) retries trace reply)
      (read : TaskQuery.readReply endpoint reply = .error e) :
      Fetches asked retries size endpoint page (left + 1) trace (.error e)
  | short {page : Int} {left : Nat} {trace : Trace} {reply : Reply}
      {batch : List Task} (tries : Tries (asked page) retries trace reply)
      (read : TaskQuery.readReply endpoint reply = .ok batch)
      (short : (batch.length : Int) < size) :
      Fetches asked retries size endpoint page (left + 1) trace (.ok batch)
  | full {page : Int} {left : Nat} {trace later : Trace} {reply : Reply}
      {batch : List Task} {rest : Except ApiError (List Task)}
      (tries : Tries (asked page) retries trace reply)
      (read : TaskQuery.readReply endpoint reply = .ok batch) (full : size ≤ (batch.length : Int))
      (next : Fetches asked retries size endpoint (page + 1) left later rest) :
      Fetches asked retries size endpoint page (left + 1) (trace ++ later) (rest.map (batch ++ ·))

/-- The pages are fetched from the one of the query on. -/
theorem pagesFrom_sends (plain : client.IsPlain) {q : TaskQuery}
    (hendpoint : TaskQuery.endpoint q.project = .ok endpoint)
    (hlink : client.link? endpoint = some link) (left : Nat) (page : Int) (c : Connection α)
    (direct : c.network.Direct link) :
    ∃ trace, Sends c trace (client.pagesFrom (q.at_ page) left c).2 ∧
      Fetches (fun k => client.reading link (q.at_ k).parameters) (client.retriesFor q) q.perPage
        endpoint page left trace (client.pagesFrom (q.at_ page) left c).1 := by
  induction left generalizing page c with
  | zero => exact ⟨[], .refl c, .done⟩
  | succ left ih =>
    obtain ⟨trace, reply, sent, tries, hread⟩ :=
      tasks_sends plain (q := q.at_ page) hendpoint hlink direct
    rw [pagesFrom]
    generalize client.tasks (q.at_ page) c = done at sent hread
    obtain ⟨result, c'⟩ := done
    dsimp only at sent hread ⊢
    subst hread
    split
    · next c'' heq =>
      obtain ⟨hread, rfl⟩ := Prod.mk.inj heq
      exact ⟨trace, sent, .failed tries hread⟩
    · next batch c'' heq =>
      obtain ⟨hread, rfl⟩ := Prod.mk.inj heq
      split
      · next short => exact ⟨trace, sent, .short tries hread short⟩
      · next full =>
        obtain ⟨later, sent', fetches⟩ := ih (page + 1) c' (sent.direct direct)
        exact ⟨trace ++ later, sent.trans sent', .full tries hread (Int.not_lt.1 full) fetches⟩

/-- Without a link nothing is sent, and no page is there. -/
theorem pagesFrom_of_no_link {q : TaskQuery}
    (hendpoint : TaskQuery.endpoint q.project = .ok endpoint) (hlink : client.link? endpoint = none)
    (left : Nat) (c : Connection α) :
    Sends c [] (client.pagesFrom q left c).2 ∧
      ((client.pagesFrom q left c).1 = .ok [] ∨ ∃ e, (client.pagesFrom q left c).1 = .error e) := by
  cases left with
  | zero => exact ⟨.refl c, .inl rfl⟩
  | succ left =>
    obtain ⟨sent, e, he⟩ := tasks_of_no_link (q := q) hendpoint hlink c
    rw [pagesFrom]
    generalize client.tasks q c = done at sent he
    obtain ⟨result, c'⟩ := done
    dsimp only at sent he
    subst he
    exact ⟨sent, .inr ⟨e, rfl⟩⟩

/-! ## The order of the requests -/

/-- A request follows another one: it repeats it after a reply that looks transient, or it asks for
the next page after a full one. -/
def Follows (asked : Int → Request) (size : Int) (endpoint : String)
    (x y : Request × Reply) : Prop :=
  (isTransient x.2 = true ∧ y.1 = x.1) ∨
    ∃ page batch, x.1 = asked page ∧ y.1 = asked (page + 1) ∧
      TaskQuery.readReply endpoint x.2 = .ok batch ∧ size ≤ (batch.length : Int)

namespace Tries

variable {r : Request} {retries : Nat} {trace : Trace} {reply : Reply}

theorem isChain (h : Tries r retries trace reply) (asked : Int → Request) (size : Int)
    (endpoint : String) : trace.IsChain (Follows asked size endpoint) := by
  induction h with
  | last => exact List.isChain_singleton _
  | again transient rest ih =>
    -- whatever comes next is for the same request
    refine ih.cons fun y hy => .inl ⟨transient, ?_⟩
    exact rest.request y (List.mem_of_mem_head? hy)

/-- Only the last reply can hold tasks. -/
theorem flatMap_tasksOf (h : Tries r retries trace reply) :
    (trace.flatMap fun x => TaskQuery.tasksOf endpoint x.2) = TaskQuery.tasksOf endpoint reply := by
  induction h with
  | last => exact List.append_nil _
  | again transient _ ih =>
    obtain ⟨e, he⟩ : ∃ e, TaskQuery.readReply endpoint _ = .error e :=
      TaskQuery.exists_error_of_isTransient transient
    rw [List.flatMap_cons, ih]
    dsimp only
    rw [TaskQuery.tasksOf_of_error he, List.nil_append]

end Tries

namespace Fetches

variable {asked : Int → Request} {retries left : Nat} {size page : Int}
  {trace : Trace} {result : Except ApiError (List Task)}

theorem exists_page (h : Fetches asked retries size endpoint page left trace result) :
    ∀ x ∈ trace, ∃ k, page ≤ k ∧ x.1 = asked k := by
  induction h with
  | done => simp
  | failed tries => exact fun x hx => ⟨_, Int.le_refl _, tries.request x hx⟩
  | short tries => exact fun x hx => ⟨_, Int.le_refl _, tries.request x hx⟩
  | full tries _ _ _ ih =>
    intro x hx
    rcases List.mem_append.1 hx with hx | hx
    · exact ⟨_, Int.le_refl _, tries.request x hx⟩
    · obtain ⟨k, hk, hasked⟩ := ih x hx
      exact ⟨k, by omega, hasked⟩

theorem head? (h : Fetches asked retries size endpoint page left trace result) :
    ∀ x ∈ trace.head?, x.1 = asked page := by
  cases h with
  | done => simp
  | failed tries => exact fun x hx => tries.request x (List.mem_of_mem_head? hx)
  | short tries => exact fun x hx => tries.request x (List.mem_of_mem_head? hx)
  | full tries =>
    intro x hx
    rw [List.head?_append_of_ne_nil _ tries.ne_nil] at hx
    exact tries.request x (List.mem_of_mem_head? hx)

theorem isChain (h : Fetches asked retries size endpoint page left trace result) :
    trace.IsChain (Follows asked size endpoint) := by
  induction h with
  | done => exact List.isChain_nil
  | failed tries => exact tries.isChain _ _ _
  | short tries => exact tries.isChain _ _ _
  | @full page left trace later reply batch rest tries read full next ih =>
    -- the last request for this page meets the first one for the next page
    refine (tries.isChain _ _ _).append ih fun x hx y hy => .inr ⟨page, batch, ?_, ?_, ?_, full⟩
    · exact tries.request x (List.mem_of_mem_getLast? hx)
    · exact next.head? y hy
    · obtain rfl := Option.mem_unique hx (Option.mem_def.2 tries.getLast?)
      exact read

/-- A fetch that succeeds gives what its replies hold, in the order in which they came. -/
theorem eq_flatMap (h : Fetches asked retries size endpoint page left trace result)
    {tasks : List Task} (hok : result = .ok tasks) :
    tasks = trace.flatMap fun x => TaskQuery.tasksOf endpoint x.2 := by
  induction h generalizing tasks with
  | done => exact (Except.ok.inj hok).symm
  | failed => exact absurd hok (by simp)
  | short tries read =>
    obtain rfl := Except.ok.inj hok
    rw [tries.flatMap_tasksOf, TaskQuery.tasksOf_of_ok read]
  | @full page left trace later reply batch rest tries read _ _ ih =>
    cases rest with
    | error e => exact absurd hok (by simp [Except.map])
    | ok more =>
      obtain rfl := Except.ok.inj hok
      rw [List.flatMap_append, tries.flatMap_tasksOf, TaskQuery.tasksOf_of_ok read, ← ih rfl]

/-- A fetch that fails ends with the reply that failed. -/
theorem exists_getLast? (h : Fetches asked retries size endpoint page left trace result)
    {e : ApiError} (herror : result = .error e) :
    ∃ x ∈ trace.getLast?, TaskQuery.readReply endpoint x.2 = .error e := by
  induction h with
  | done => exact absurd herror (by simp)
  | failed tries read =>
    obtain rfl := Except.error.inj herror
    exact ⟨_, tries.getLast?, read⟩
  | short => exact absurd herror (by simp)
  | @full page left trace later reply batch rest tries read _ _ ih =>
    cases rest with
    | ok more => exact absurd herror (by simp [Except.map])
    | error e' =>
      obtain rfl := Except.error.inj herror
      obtain ⟨x, hx, hread⟩ := ih rfl
      refine ⟨x, ?_, hread⟩
      rw [List.getLast?_append, Option.mem_def.1 hx]
      rfl

end Fetches

end Client

end TaskSieve.Remote
