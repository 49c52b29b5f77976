import TaskSieve.Remote.Client

set_option autoImplicit false

/-! # What is sent

A run of the client is seen from outside as a trace: the requests that it sent, each with the reply
that it got. The network decides the replies, so a trace is one that the network plays. Redirects
that are followed would put requests into the log that no attempt asked for; everything here is
about networks without them. -/

namespace TaskSieve.Remote

open Web (Link)

/-! ## Exchanges without redirects -/

/-- An outcome sends a request for a link elsewhere. -/
def Outcome.IsFollowed (link : Link) : Outcome → Prop
  | .answered status (some place) _ => redirects status = true ∧ (link.follow? place).isSome = true
  | _ => False

/-- No outcome sends a request for a link elsewhere. -/
def Network.Direct (n : Network) (link : Link) : Prop := ∀ o ∈ n.script, ¬ o.IsFollowed link

theorem Network.script_send_subset (n : Network) (r : Request) :
    (n.send r).2.script ⊆ n.script := by
  intro o ho
  unfold Network.send at ho
  split at ho
  · next first rest h =>
    rw [h]
    exact List.mem_cons_of_mem first ho
  · split at ho <;> exact ho

/-- What becomes of a request is not followed if nothing in the script is: the tasks of a server are
never elsewhere. -/
theorem Network.Direct.send {n : Network} {r : Request} (h : n.Direct r.link) :
    ¬ (n.send r).1.IsFollowed r.link := by
  unfold Network.send
  split
  · next first rest hscript =>
    exact h first (hscript ▸ List.mem_cons_self)
  · split
    · unfold Network.page
      split <;> exact id
    · exact id

/-- The reply that an outcome gives to a request for a link, if it is not followed elsewhere: a
redirect to a place that cannot be found breaks the request. -/
def Outcome.replyOn (link : Link) : Outcome → Reply
  | .timeout => .timeout
  | .unreachable => .unreachable
  | .broken => .broken
  | .answered status location body =>
    if link.scheme = "" ∨ (redirects status = true ∧ location.isSome = true) then .broken
    else .answered status body

/-- Where an outcome sends a request for a link, and with which status. -/
def Outcome.goesTo? (link : Link) : Outcome → Option (Nat × Link)
  | .answered status (some place) _ =>
    if link.scheme ≠ "" ∧ redirects status = true then (link.follow? place).map (status, ·) else none
  | _ => none

theorem Outcome.goesTo?_of_not_isFollowed {link : Link} {o : Outcome} (h : ¬ o.IsFollowed link) :
    o.goesTo? link = none := by
  cases o with
  | answered status location body =>
    cases location with
    | none => rfl
    | some place =>
      rw [goesTo?]
      split
      · next hboth =>
        rw [Option.map_eq_none_iff, ← Option.not_isSome_iff_eq_none]
        exact fun hsome => h ⟨hboth.2, hsome⟩
      · rfl
  | timeout => rfl
  | unreachable => rfl
  | broken => rfl

/-- A request that goes nowhere else is sent once, and its outcome gives the reply. -/
theorem exchange_of_final {r : Request} {n : Network} {left : Nat}
    (h : left = 0 ∨ (n.send r).1.goesTo? r.link = none) :
    exchange left r n = ⟨(n.send r).1.replyOn r.link, [r], (n.send r).2⟩ := by
  rw [exchange.eq_def]
  generalize n.send r = sent at h ⊢
  obtain ⟨outcome, n'⟩ := sent
  match outcome with
  | .timeout => rfl
  | .unreachable => rfl
  | .broken => rfl
  | .answered status location body =>
    dsimp only [Outcome.replyOn] at h ⊢
    by_cases hscheme : r.link.scheme = ""
    · rw [if_pos hscheme, if_pos (.inl hscheme)]
    rw [if_neg hscheme]
    by_cases hredirects : redirects status = true
    · rw [if_pos hredirects]
      cases location with
      | none => simp [hscheme]
      | some place =>
        rw [if_pos (.inr ⟨hredirects, rfl⟩)]
        rcases h with rfl | h
        · rfl
        · rw [Outcome.goesTo?, if_pos ⟨hscheme, hredirects⟩, Option.map_eq_none_iff] at h
          dsimp only
          rw [h]
          cases left <;> rfl
    · rw [if_neg hredirects]
      simp [hscheme, hredirects]

/-- A request that goes elsewhere is sent, and then the one that it becomes is exchanged. -/
theorem exchange_of_goesTo {r : Request} {n : Network} {status : Nat} {link : Link} (left : Nat)
    (h : (n.send r).1.goesTo? r.link = some (status, link)) :
    exchange (left + 1) r n =
      let rest := exchange left (r.redirected status link) (n.send r).2
      { rest with sent := r :: rest.sent } := by
  rw [exchange.eq_def]
  generalize n.send r = sent at h ⊢
  obtain ⟨outcome, n'⟩ := sent
  match outcome with
  | .timeout => exact absurd h (by simp [Outcome.goesTo?])
  | .unreachable => exact absurd h (by simp [Outcome.goesTo?])
  | .broken => exact absurd h (by simp [Outcome.goesTo?])
  | .answered status' none body => exact absurd h (by simp [Outcome.goesTo?])
  | .answered status' (some place) body =>
    dsimp only [Outcome.goesTo?] at h ⊢
    by_cases hboth : r.link.scheme ≠ "" ∧ redirects status' = true
    · rw [if_pos hboth, Option.map_eq_some_iff] at h
      obtain ⟨link', hfollow, heq⟩ := h
      obtain ⟨rfl, rfl⟩ := Prod.mk.inj heq
      rw [if_neg hboth.1, if_pos hboth.2]
      dsimp only
      rw [hfollow]
    · rw [if_neg hboth] at h
      exact absurd h (by simp)

/-- A request that is not followed elsewhere is sent once. -/
theorem exchange_of_direct {r : Request} {n : Network} (h : n.Direct r.link) (left : Nat) :
    exchange left r n = ⟨(n.send r).1.replyOn r.link, [r], (n.send r).2⟩ :=
  exchange_of_final (.inr (Outcome.goesTo?_of_not_isFollowed h.send))

/-! ## Traces -/

/-- The requests that were sent, in order, each with the reply to it. -/
abbrev Trace := List (Request × Reply)

/-- The network plays a trace: it replies to each request in turn, and follows none elsewhere. -/
inductive Plays : Network → Trace → Network → Prop
  | nil {n : Network} : Plays n [] n
  | cons {n n' n'' : Network} {r : Request} {reply : Reply} {trace : Trace}
      (first : exchange redirectLimit r n = ⟨reply, [r], n'⟩) (rest : Plays n' trace n'') :
      Plays n ((r, reply) :: trace) n''

theorem Plays.append {n n' n'' : Network} {trace trace' : Trace}
    (h : Plays n trace n') (h' : Plays n' trace' n'') : Plays n (trace ++ trace') n'' := by
  induction h with
  | nil => exact h'
  | cons first _ ih => exact .cons first (ih h')

namespace Connection

variable {α : Type}

/-- The requests that were sent on a connection. -/
def requests (c : Connection α) : List Request := c.log.filterMap Event.request?

end Connection

/-- Between two moments of a connection the requests of a trace were sent, and no others; the
network can only have lost outcomes. -/
structure Sends {α : Type} (c : Connection α) (trace : Trace) (c' : Connection α) : Prop where
  plays : Plays c.network trace c'.network
  requests : c'.requests = c.requests ++ trace.map Prod.fst
  script : c'.network.script ⊆ c.network.script

namespace Sends

variable {α : Type} {c c' c'' : Connection α} {trace trace' : Trace}

theorem refl (c : Connection α) : Sends c [] c where
  plays := .nil
  requests := (List.append_nil _).symm
  script := List.Subset.refl _

theorem trans (h : Sends c trace c') (h' : Sends c' trace' c'') :
    Sends c (trace ++ trace') c'' where
  plays := h.plays.append h'.plays
  requests := by rw [h'.requests, h.requests, List.map_append, List.append_assoc]
  script := List.Subset.trans h'.script h.script

theorem direct (h : Sends c trace c') {link : Link} (hdirect : c.network.Direct link) :
    c'.network.Direct link :=
  fun o ho => hdirect o (h.script ho)

end Sends

/-! ## Writing requests -/

namespace Client

variable {α : Type}

/-- The link of an endpoint of the server, if it can be read. -/
def link? (client : Client α) (endpoint : String) : Option Link :=
  Link.ofText? (client.base ++ "/" ++
    String.ofList (endpoint.toList.dropWhile (· == '/'))).toList

/-- The token and the name of the client may stand in headers. -/
def IsPlain (client : Client α) : Prop :=
  isHeaderText client.token = true ∧ isHeaderText client.userAgent = true

/-- The request that reads from a link with these parameters. -/
def reading (client : Client α) (link : Link) (parameters : List (String × String)) : Request where
  method := Text.upperString "GET"
  link := link
  parameters := parameters
  authorization := link.credentials?.getD ("Bearer " ++ client.token)
  contentType := "application/json"
  userAgent := client.userAgent
  body := none

/-- The call that reads from an endpoint with these parameters. -/
def readingCall (endpoint : String) (parameters : List (String × String)) (retry : Bool) : Call :=
  ⟨"GET", endpoint, none, some parameters, retry⟩

theorem request?_of_link {client : Client α} (plain : client.IsPlain) {endpoint : String}
    {link : Link} (h : client.link? endpoint = some link) (parameters : List (String × String))
    (retry : Bool) : client.request? (readingCall endpoint parameters retry) =
      some (client.reading link parameters) := by
  have hlink : Link.ofText? (client.base ++ "/" ++
      String.ofList (endpoint.toList.dropWhile (· == '/'))).toList = some link := h
  simp only [request?, readingCall, hlink, plain.1, plain.2, Option.all_none, Bool.and_self,
    if_true, Option.getD_some, reading]

theorem request?_of_no_link {client : Client α} {endpoint : String}
    (h : client.link? endpoint = none) (parameters : List (String × String)) (retry : Bool) :
    client.request? (readingCall endpoint parameters retry) = none := by
  have hlink : Link.ofText? (client.base ++ "/" ++
      String.ofList (endpoint.toList.dropWhile (· == '/'))).toList = none := h
  simp only [request?, readingCall, hlink]

/-! ## Attempts -/

/-- Sleeps for a token are no requests. -/
theorem filterMap_throttled (slept : List α) :
    (slept.map Event.throttled).filterMap Event.request? = [] := by
  rw [List.filterMap_map, List.filterMap_eq_nil_iff]
  exact fun _ _ => rfl

variable [Measure α] {client : Client α} {call : Call} {r : Request}

/-- What an attempt does to a connection whose request is not followed elsewhere. -/
theorem attempt_of_direct {c : Connection α} (hr : client.request? call = some r)
    (direct : c.network.Direct r.link) :
    client.attempt call c = ((c.network.send r).1.replyOn r.link,
      { network := (c.network.send r).2, bucket := (c.bucket.take c.clock).bucket
        clock := (c.bucket.take c.clock).clock
        log := c.log ++ (c.bucket.take c.clock).slept.map .throttled ++ [.sent r] }) := by
  simp only [attempt, hr, exchange_of_direct direct, List.map_cons, List.map_nil]

/-- An attempt sends its request once, after as many sleeps as the bucket asks for. -/
theorem attempt_sends {c : Connection α} (hr : client.request? call = some r)
    (direct : c.network.Direct r.link) :
    Sends c [(r, (client.attempt call c).1)] (client.attempt call c).2 := by
  rw [attempt_of_direct hr direct]
  exact
    { plays := .cons (exchange_of_direct direct redirectLimit) .nil
      requests := by
        simp only [Connection.requests, List.filterMap_append, filterMap_throttled, List.append_nil]
        rfl
      script := Network.script_send_subset c.network r }

/-- An attempt whose request cannot be written sends nothing and is broken. -/
theorem attempt_of_none {c : Connection α} (hr : client.request? call = none) :
    (client.attempt call c).1 = .broken ∧ Sends c [] (client.attempt call c).2 := by
  simp only [attempt, hr]
  exact ⟨trivial,
    { plays := .nil
      requests := by
        simp only [Connection.requests, List.filterMap_append, filterMap_throttled]
        rfl
      script := List.Subset.refl _ }⟩

/-- The attempts of one request: all replies but the last look transient, and the last one does only
if no retries were left. -/
inductive Tries (r : Request) : Nat → Trace → Reply → Prop
  | last {retries : Nat} {reply : Reply} (settled : retries = 0 ∨ isTransient reply = false) :
      Tries r retries [(r, reply)] reply
  | again {retries : Nat} {reply last : Reply} {trace : Trace}
      (transient : isTransient reply = true) (rest : Tries r retries trace last) :
      Tries r (retries + 1) ((r, reply) :: trace) last

/-- The connection after a pause. -/
def pausedFor (c : Connection α) (pause : α) : Connection α :=
  { c with clock := c.clock + pause, log := c.log ++ [.pausedFor pause] }

/-- A pause is logged, and it is no request. -/
theorem sends_pausedFor (c : Connection α) (pause : α) : Sends c [] (pausedFor c pause) where
  plays := .nil
  requests := by
    simp only [Connection.requests, pausedFor, List.filterMap_append]
    rfl
  script := List.Subset.refl _

theorem attempts_zero (call : Call) (pause : α) (c : Connection α) :
    client.attempts call 0 pause c = client.attempt call c := rfl

theorem attempts_succ (call : Call) (retries : Nat) (pause : α) (c : Connection α) :
    client.attempts call (retries + 1) pause c =
      if isTransient (client.attempt call c).1 then
        client.attempts call retries (pause * ((2 : Nat) : α))
          (pausedFor (client.attempt call c).2 pause)
      else client.attempt call c := rfl

/-- A request is repeated for as long as its replies look transient and retries are left. -/
theorem attempts_sends (hr : client.request? call = some r) (retries : Nat) (pause : α)
    (c : Connection α) (direct : c.network.Direct r.link) :
    ∃ trace, Sends c trace (client.attempts call retries pause c).2 ∧
      Tries r retries trace (client.attempts call retries pause c).1 := by
  induction retries generalizing pause c with
  | zero =>
    rw [attempts_zero]
    exact ⟨_, attempt_sends hr direct, .last (.inl rfl)⟩
  | succ retries ih =>
    have sent := attempt_sends hr direct
    rw [attempts_succ]
    split
    · next transient =>
      -- the later attempts start from the connection after the pause
      have sent' := sent.trans (sends_pausedFor _ pause)
      obtain ⟨trace, later, tries⟩ := ih (pause * ((2 : Nat) : α)) _ (sent'.direct direct)
      exact ⟨_, sent'.trans later, .again transient tries⟩
    · next settled => exact ⟨_, sent, .last (.inr (by simpa using settled))⟩

/-- A call that cannot be written sends nothing and fails. -/
theorem attempts_of_none {c : Connection α} (hr : client.request? call = none) (retries : Nat)
    (pause : α) : (client.attempts call retries pause c).1 = .broken ∧
      Sends c [] (client.attempts call retries pause c).2 := by
  have sent := attempt_of_none (c := c) hr
  cases retries with
  | zero =>
    rw [attempts_zero]
    exact sent
  | succ retries =>
    rw [attempts_succ, sent.1, if_neg (by decide)]
    exact sent

namespace Tries

variable {retries : Nat} {trace : Trace} {reply : Reply}

theorem ne_nil (h : Tries r retries trace reply) : trace ≠ [] := by
  cases h <;> simp

/-- A request without retries is sent once. -/
theorem eq_singleton (h : Tries r 0 trace reply) : trace = [(r, reply)] := by
  cases h
  rfl

/-- A request is sent once more than there are retries, at most. -/
theorem length_le (h : Tries r retries trace reply) : trace.length ≤ retries + 1 := by
  induction h with
  | last => simp
  | again _ _ ih =>
    rw [List.length_cons]
    omega

theorem request (h : Tries r retries trace reply) : ∀ x ∈ trace, x.1 = r := by
  induction h with
  | last => simp
  | again _ _ ih =>
    intro x hx
    rcases List.mem_cons.1 hx with rfl | hx
    · rfl
    · exact ih x hx

theorem getLast? (h : Tries r retries trace reply) : trace.getLast? = some (r, reply) := by
  induction h with
  | last => rfl
  | again _ rest ih =>
    rw [List.getLast?_cons, ih]
    rfl

end Tries

end Client

end TaskSieve.Remote
