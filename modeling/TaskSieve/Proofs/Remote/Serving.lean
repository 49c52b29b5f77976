import TaskSieve.Proofs.Number.Decimal
import TaskSieve.Proofs.Remote.Paging
import TaskSieve.Proofs.Task.Page

set_option autoImplicit false

/-! # Fetching from a server that answers

Once nothing goes wrong any more, every request for a page is answered at once with that page of the
server's tasks. Fetching page by page then gives the tasks from the start on, up to the limit on the
number of pages, and asks for no page beyond the first that is not full. -/

namespace TaskSieve.Remote

open Web (Link)

/-- A network on which every request is answered from the same tasks. -/
def Network.serving (backend : List Datum) : Network := ⟨[], some backend⟩

/-! ## The answer to one request -/

/-- The part of the server's tasks that a query asks for. -/
def TaskQuery.items (q : TaskQuery) (backend : List Datum) : List Datum :=
  let size := min q.perPage largestPage
  Page.window ((q.page - 1) * size) (q.page * size) backend

variable {backend : List Datum}

theorem page_of_parameters {r : Request} {q : TaskQuery} (h : r.parameters = q.parameters) :
    Network.page backend r = .answered 200 none (.json (.list (q.items backend))) := by
  have page : Network.parameter? r "page" 1 = some q.page := by
    rw [Network.parameter?, h]
    exact Decimal.integerOf?_integerText q.page
  have size : Network.parameter? r "per_page" 50 = some (min q.perPage largestPage) := by
    rw [Network.parameter?, h]
    exact Decimal.integerOf?_integerText _
  rw [Network.page, page, size]
  rfl

theorem Network.send_serving {r : Request} {q : TaskQuery} (h : r.parameters = q.parameters) :
    (Network.serving backend).send r =
      (.answered 200 none (.json (.list (q.items backend))), .serving backend) := by
  rw [← page_of_parameters h]
  rfl

theorem exchange_serving {r : Request} {q : TaskQuery} (h : r.parameters = q.parameters)
    (hscheme : r.link.scheme ≠ "") : exchange redirectLimit r (.serving backend) =
      ⟨.answered 200 (.json (.list (q.items backend))), [r], .serving backend⟩ := by
  rw [exchange.eq_def, Network.send_serving h]
  dsimp only
  rw [if_neg hscheme]
  rfl

/-- An answer to a request without a scheme is of no use. -/
theorem exchange_of_no_scheme {r : Request} {q : TaskQuery} (h : r.parameters = q.parameters)
    (hscheme : r.link.scheme = "") :
    (exchange redirectLimit r (.serving backend)).reply = .broken := by
  rw [exchange.eq_def, Network.send_serving h]
  dsimp only
  rw [if_pos hscheme]

namespace Client

variable {α : Type} {client : Client α} {endpoint : String} {link : Link} {q : TaskQuery}
  {c : Connection α}

/-- The client can ask the endpoint of a query for pages. -/
structure Reaches (client : Client α) (q : TaskQuery) (endpoint : String) (link : Link) : Prop where
  plain : client.IsPlain
  located : TaskQuery.endpoint q.project = .ok endpoint
  linked : client.link? endpoint = some link
  scheme : link.scheme ≠ ""

theorem Reaches.at_ (h : client.Reaches q endpoint link) (page : Int) :
    client.Reaches (q.at_ page) endpoint link := ⟨h.plain, h.located, h.linked, h.scheme⟩

variable [Measure α]

/-- An attempt gives what the one exchange with its request gives. -/
theorem attempt_of_exchange {call : Call} {r : Request} {reply : Reply} {n : Network}
    (written : client.request? call = some r)
    (exchanged : exchange redirectLimit r c.network = ⟨reply, [r], n⟩) :
    (client.attempt call c).1 = reply ∧ (client.attempt call c).2.network = n ∧
      (client.attempt call c).2.requests = c.requests ++ [r] := by
  simp only [attempt, written, exchanged, Connection.requests, List.filterMap_append,
    filterMap_throttled, List.append_nil, true_and]
  rfl

/-- The first attempt settles a request if its reply does not look transient. -/
theorem attempts_of_settled {call : Call} (h : isTransient (client.attempt call c).1 = false)
    (retries : Nat) (pause : α) : client.attempts call retries pause c = client.attempt call c := by
  cases retries with
  | zero => rfl
  | succ retries => rw [attempts_succ, h, if_neg Bool.false_ne_true]

/-- A page is asked for with one request, and the answer is that part of the server's tasks. -/
theorem tasks_serving (reaches : client.Reaches q endpoint link)
    (serving : c.network = .serving backend) :
    (client.tasks q c).1 = TaskQuery.decode endpoint (.list (q.items backend)) ∧
      (client.tasks q c).2.network = .serving backend ∧
      (client.tasks q c).2.requests = c.requests ++ [client.reading link q.parameters] := by
  have written := request?_of_link reaches.plain reaches.linked q.parameters q.retry
  have exchanged : exchange redirectLimit (client.reading link q.parameters) c.network =
      ⟨.answered 200 (.json (.list (q.items backend))), [client.reading link q.parameters],
        .serving backend⟩ := by
    rw [serving]
    exact exchange_serving rfl reaches.scheme
  obtain ⟨hreply, hnetwork, hrequests⟩ := attempt_of_exchange written exchanged
  have settled : isTransient
      (client.attempt (readingCall endpoint q.parameters q.retry) c).1 = false := by
    rw [hreply]
    rfl
  rw [tasks_eq reaches.located, attempts_of_settled settled]
  refine ⟨?_, hnetwork, hrequests⟩
  dsimp only
  rw [hreply]
  rfl

/-! ## All pages -/

/-- Tasks that can be read one by one can be read as a list. -/
theorem decode_of_map {items : List Datum} {tasks : List Task}
    (h : items.map Task.ofDatum = tasks.map .valid) :
    TaskQuery.decode endpoint (.list items) = .ok tasks := by
  have read : items.mapM (fun d => (Task.ofDatum d).value?) = some tasks := by
    induction items generalizing tasks with
    | nil =>
      rw [List.map_nil] at h
      rw [List.map_eq_nil_iff.1 h.symm]
      rfl
    | cons d items ih =>
      rw [List.map_cons] at h
      obtain ⟨t, tasks, rfl, ht, htail⟩ := List.map_eq_cons_iff.1 h.symm
      rw [List.mapM_cons, ← ht, ih htail.symm]
      rfl
  rw [TaskQuery.decode, read]

/-- Tasks that are read as a list are read one by one. -/
theorem map_of_decode {items : List Datum} {tasks : List Task}
    (h : TaskQuery.decode endpoint (.list items) = .ok tasks) :
    items.map Task.ofDatum = tasks.map .valid := by
  have read : items.mapM (fun d => (Task.ofDatum d).value?) = some tasks := by
    rw [TaskQuery.decode] at h
    split at h
    · next hread =>
      obtain rfl := Except.ok.inj h
      exact hread
    · cases h
  clear h
  induction items generalizing tasks with
  | nil =>
    obtain rfl := Option.some.inj read
    rfl
  | cons d items ih =>
    rw [List.mapM_cons] at read
    obtain ⟨t, ht, read⟩ := Option.bind_eq_some_iff.1 read
    obtain ⟨later, hlater, read⟩ := Option.bind_eq_some_iff.1 read
    obtain rfl := Option.some.inj read
    rw [List.map_cons, List.map_cons, ih hlater]
    congr 1
    cases hd : Task.ofDatum d with
    | valid t' =>
      rw [hd] at ht
      exact congrArg _ (Option.some.inj ht)
    | invalid _ =>
      rw [hd] at ht
      cases ht

/-- The page with the number `k + 1` of a server. -/
theorem items_at (q : TaskQuery) {size : Nat} (hsize : min q.perPage largestPage = size) (k : Nat)
    (backend : List Datum) :
    (q.at_ (k + 1)).items backend = (backend.drop (k * size)).take size := by
  have hstart : ((k : Int) + 1 - 1) * size = ((k * size : Nat) : Int) := by
    rw [Int.add_sub_cancel, Int.natCast_mul]
  have hstop : ((k : Int) + 1) * size = (((k + 1) * size : Nat) : Int) := by
    rw [Int.natCast_mul, Int.natCast_succ]
  have hwidth : (k + 1) * size - k * size = size := by
    rw [Nat.succ_mul, Nat.add_sub_cancel_left]
  simp only [TaskQuery.items, TaskQuery.at_, hsize, hstart, hstop, Page.window_eq, hwidth]

/-- The requests for pages from the one with the number `k + 1` on. -/
def pagesAsked (client : Client α) (link : Link) (q : TaskQuery) (k count : Nat) : List Request :=
  (List.range count).map fun i => client.reading link (q.at_ ((k + i : Nat) + 1)).parameters

omit [Measure α] in
theorem pagesAsked_succ (link : Link) (q : TaskQuery) (k count : Nat) :
    client.pagesAsked link q k (count + 1) =
      client.reading link (q.at_ (k + 1)).parameters :: client.pagesAsked link q (k + 1) count := by
  rw [pagesAsked, pagesAsked, List.range_succ_eq_map, List.map_cons, List.map_map]
  refine congrArg (_ :: ·) (List.map_congr_left fun i _ => ?_)
  rw [Function.comp_apply, Nat.add_right_comm, Nat.add_assoc]

/-- How many pages are asked for: all that are left, or up to the first that is not full. -/
def pageCount (left size length : Nat) : Nat := min left (length / size + 1)

theorem pageCount_of_short {size length : Nat} (h : length < size) (left : Nat) :
    pageCount (left + 1) size length = 1 := by
  rw [pageCount, Nat.div_eq_of_lt h]
  omega

theorem pageCount_of_full {size length : Nat} (hpos : 0 < size) (h : size ≤ length) (left : Nat) :
    pageCount (left + 1) size length = pageCount left size (length - size) + 1 := by
  have hdiv : length / size = (length - size) / size + 1 := Nat.div_eq_sub_div hpos h
  rw [pageCount, pageCount, hdiv]
  omega

/-- From a page on, what is fetched are the tasks from there on, as many as there can be on the pages
that are left. -/
theorem pagesFrom_serving (reaches : client.Reaches q endpoint link) {tasks : List Task}
    (decodable : backend.map Task.ofDatum = tasks.map .valid) {size : Nat} (hpos : 0 < size)
    (hsize : q.perPage = size) (hle : size ≤ 50) (left k : Nat) (c : Connection α)
    (serving : c.network = .serving backend) :
    let done := client.pagesFrom (q.at_ (k + 1)) left c
    done.1 = .ok ((tasks.drop (k * size)).take (size * left)) ∧
      done.2.requests = c.requests ++
        client.pagesAsked link q k (pageCount left size (tasks.drop (k * size)).length) := by
  induction left generalizing k c with
  | zero =>
    refine ⟨by rw [Nat.mul_zero, List.take_zero]; rfl, ?_⟩
    rw [pageCount, Nat.zero_min]
    exact (List.append_nil _).symm
  | succ left ih =>
    have hcapped : min q.perPage largestPage = size := by
      rw [hsize, largestPage]
      omega
    have decoded : TaskQuery.decode endpoint (.list ((q.at_ (k + 1)).items backend)) =
        .ok ((tasks.drop (k * size)).take size) := by
      refine decode_of_map ?_
      rw [items_at q hcapped, List.map_take, List.map_drop, decodable, List.map_take, List.map_drop]
    obtain ⟨hread, hnetwork, hrequests⟩ := tasks_serving (reaches.at_ (k + 1)) serving
    rw [decoded] at hread
    dsimp only
    rw [pagesFrom]
    generalize client.tasks (q.at_ (k + 1)) c = done at hread hnetwork hrequests
    obtain ⟨result, c'⟩ := done
    dsimp only at hread hnetwork hrequests
    subst hread
    dsimp only
    have hlength : ((tasks.drop (k * size)).take size).length =
        min size (tasks.drop (k * size)).length := List.length_take
    have hperPage : (q.at_ (k + 1)).perPage = size := hsize
    have hlater : tasks.drop ((k + 1) * size) = (tasks.drop (k * size)).drop size := by
      rw [List.drop_drop, Nat.succ_mul]
    have next := ih (k + 1) c' hnetwork
    rw [hlater] at next
    generalize tasks.drop (k * size) = rest at hlength next ⊢
    split
    · next short =>
      rw [hlength, hperPage] at short
      have hshort : rest.length < size := by omega
      have hmore : size ≤ size * (left + 1) := Nat.le_mul_of_pos_right size (Nat.succ_pos left)
      rw [pageCount_of_short hshort, hrequests, List.take_of_length_le (by omega),
        List.take_of_length_le (by omega), pagesAsked_succ]
      exact ⟨rfl, rfl⟩
    · next full =>
      rw [hlength, hperPage] at full
      have hfull : size ≤ rest.length := by omega
      rw [pageCount_of_full hpos hfull, pagesAsked_succ]
      obtain ⟨hrest, hasked⟩ := next
      rw [List.length_drop, hrequests, List.append_assoc] at hasked
      refine ⟨?_, hasked⟩
      change Except.map _ (client.pagesFrom (q.at_ (((k + 1 : Nat) : Int) + 1)) left c').1 = _
      rw [hrest, Nat.mul_succ, Nat.add_comm, List.take_add]
      rfl

/-! ## Servers that were reached -/

omit [Measure α] in
theorem request?_of_not_plain (h : ¬ client.IsPlain) (parameters : List (String × String))
    (retry : Bool) : client.request? (readingCall endpoint parameters retry) = none := by
  unfold request?
  dsimp only
  split
  · rfl
  · refine if_neg fun hplain => h ?_
    simp only [Bool.and_eq_true] at hplain
    exact hplain.1

/-- A page that is asked for by an attempt that breaks is not there. -/
theorem tasks_of_broken (located : TaskQuery.endpoint q.project = .ok endpoint)
    (broken : (client.attempt (readingCall endpoint q.parameters q.retry) c).1 = .broken) :
    ∃ e, (client.tasks q c).1 = .error e := by
  have settled : isTransient
      (client.attempt (readingCall endpoint q.parameters q.retry) c).1 = false := by
    rw [broken]
    rfl
  rw [tasks_eq located, attempts_of_settled settled]
  dsimp only
  rw [broken]
  exact ⟨_, rfl⟩

/-- Whoever gets a page from a server reaches it. -/
theorem exists_reaches_of_tasks (serving : c.network = .serving backend) {tasks : List Task}
    (h : (client.tasks q c).1 = .ok tasks) : ∃ endpoint link, client.Reaches q endpoint link := by
  have unbroken : ∀ endpoint, TaskQuery.endpoint q.project = .ok endpoint →
      (client.attempt (readingCall endpoint q.parameters q.retry) c).1 ≠ .broken := by
    intro endpoint located broken
    obtain ⟨e, he⟩ := tasks_of_broken located broken
    rw [he] at h
    cases h
  cases located : TaskQuery.endpoint q.project with
  | error e =>
    simp only [Client.tasks, located] at h
    cases h
  | ok endpoint =>
    have hattempt := unbroken endpoint located
    have written : client.request? (readingCall endpoint q.parameters q.retry) ≠ none :=
      fun hnone => hattempt (attempt_of_none hnone).1
    have plain : client.IsPlain := by
      by_contra hplain
      exact written (request?_of_not_plain hplain _ _)
    cases linked : client.link? endpoint with
    | none => exact absurd (request?_of_no_link linked _ _) written
    | some link =>
      refine ⟨endpoint, link, plain, located, linked, fun hscheme => hattempt ?_⟩
      have hrequest := request?_of_link plain linked q.parameters q.retry
      simp only [attempt, hrequest, serving]
      exact exchange_of_no_scheme rfl hscheme

/-- A fetch that succeeds got its first page. -/
theorem exists_tasks_of_pagesFrom {left : Nat} {tasks : List Task}
    (h : (client.pagesFrom q (left + 1) c).1 = .ok tasks) :
    ∃ batch, (client.tasks q c).1 = .ok batch := by
  rw [pagesFrom] at h
  generalize client.tasks q c = done at h ⊢
  obtain ⟨result, c'⟩ := done
  cases result with
  | ok batch => exact ⟨batch, rfl⟩
  | error e => cases h

/-- What is fetched from a server depends on its tasks alone. -/
theorem pagesFrom_congr (reaches : client.Reaches q endpoint link) (left : Nat)
    {c c' : Connection α} (serving : c.network = .serving backend)
    (serving' : c'.network = .serving backend) :
    (client.pagesFrom q left c).1 = (client.pagesFrom q left c').1 := by
  induction left generalizing q c c' with
  | zero => rfl
  | succ left ih =>
    obtain ⟨hread, hnetwork, -⟩ := tasks_serving reaches serving
    obtain ⟨hread', hnetwork', -⟩ := tasks_serving reaches serving'
    rw [pagesFrom, pagesFrom]
    generalize client.tasks q c = done at hread hnetwork
    generalize client.tasks q c' = done' at hread' hnetwork'
    obtain ⟨result, c⟩ := done
    obtain ⟨result', c'⟩ := done'
    dsimp only at hread hnetwork hread' hnetwork'
    subst hread hread'
    cases TaskQuery.decode endpoint (.list (q.items backend)) with
    | error e => rfl
    | ok batch =>
      dsimp only
      split
      · rfl
      · change Except.map _ (client.pagesFrom (q.at_ (q.page + 1)) left c).1 =
          Except.map _ (client.pagesFrom (q.at_ (q.page + 1)) left c').1
        rw [ih (reaches.at_ _) hnetwork hnetwork']

end Client

end TaskSieve.Remote
