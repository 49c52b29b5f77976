import TaskSieve.Proofs.Listing.Usage
import TaskSieve.Proofs.Remote.Retry

set_option autoImplicit false

/-! # The token stays out of sight

The token goes into one header of the requests and nowhere else. Two clients that differ in their
token only, both used in the same way, tell the same, sleep the same and send the same requests, as
far as one can see without reading that header. -/

namespace TaskSieve

/-- The settings with another token. -/
def Settings.withToken (s : Settings) (token : String) : Settings := { s with token }

namespace Remote

/-! ## Requests without their authorization -/

/-- A request with something else in place of its authorization. -/
def Request.masked (r : Request) : Request :=
  { r with authorization := r.authorization.map fun _ => Settings.redactedToken }

/-- An event as one sees it without reading authorizations. -/
def Event.masked {α : Type} : Event α → Event α
  | .sent r => .sent r.masked
  | e => e

/-- What one sees of a connection without reading authorizations: requests and sleeps, in order. -/
def Connection.seen {α : Type} (c : Connection α) : List (Event α) := c.log.map Event.masked

/-- Requests that look the same differ in their authorization only, and both have one or neither. -/
theorem Request.masked_eq_masked_iff {r r' : Request} : r.masked = r'.masked ↔
    ∃ authorization, r' = { r with authorization } ∧
      authorization.isSome = r.authorization.isSome := by
  constructor
  · intro h
    obtain ⟨method, link, parameters, authorization, contentType, userAgent, body⟩ := r
    obtain ⟨method', link', parameters', authorization', contentType', userAgent', body'⟩ := r'
    simp only [masked, Request.mk.injEq] at h
    obtain ⟨rfl, rfl, rfl, hauthorization, rfl, rfl, rfl⟩ := h
    refine ⟨authorization', rfl, ?_⟩
    cases authorization <;> cases authorization' <;> simp_all
  · rintro ⟨authorization, rfl, hsome⟩
    cases hold : r.authorization <;> cases authorization <;> simp_all [masked]

/-- The network does not read the authorization of a request. -/
theorem Network.send_authorization (n : Network) (r : Request) (authorization : Option String) :
    n.send { r with authorization } = n.send r := by
  obtain ⟨script, backend⟩ := n
  cases script with
  | nil => cases backend <;> rfl
  | cons outcome rest => rfl

/-- Redirected requests look the same if the requests did. -/
theorem Request.masked_redirected {r r' : Request} (h : r.masked = r'.masked) (status : Nat)
    (link : Web.Link) : (r.redirected status link).masked = (r'.redirected status link).masked := by
  obtain ⟨authorization, rfl, hsome⟩ := masked_eq_masked_iff.1 h
  refine masked_eq_masked_iff.2 ⟨_, rfl, ?_⟩
  simp only [redirected]
  split
  · exact hsome
  · rfl

/-- Exchanges of requests that look the same have the same reply, and look the same. -/
theorem exchange_of_masked {r r' : Request} (h : r.masked = r'.masked) (left : Nat) (n : Network) :
    (exchange left r n).reply = (exchange left r' n).reply ∧
      (exchange left r n).network = (exchange left r' n).network ∧
      (exchange left r n).sent.map Request.masked =
        (exchange left r' n).sent.map Request.masked := by
  induction left generalizing r r' n with
  | zero =>
    obtain ⟨authorization, rfl, -⟩ := Request.masked_eq_masked_iff.1 h
    rw [exchange_of_final (.inl rfl), exchange_of_final (.inl rfl), Network.send_authorization]
    exact ⟨rfl, rfl, congrArg (fun m => [m]) h⟩
  | succ left ih =>
    obtain ⟨authorization, rfl, -⟩ := Request.masked_eq_masked_iff.1 h
    have send := Network.send_authorization n r authorization
    cases hgoes : (n.send r).1.goesTo? r.link with
    | none =>
      rw [exchange_of_final (.inr hgoes), exchange_of_final (.inr (by rw [send]; exact hgoes)),
        send]
      exact ⟨rfl, rfl, congrArg (fun m => [m]) h⟩
    | some place =>
      obtain ⟨status, link⟩ := place
      obtain ⟨reply, network, sent⟩ := ih (Request.masked_redirected h status link) (n.send r).2
      rw [exchange_of_goesTo left hgoes, exchange_of_goesTo left (by rw [send]; exact hgoes), send]
      exact ⟨reply, network, by rw [List.map_cons, List.map_cons, h, sent]⟩

namespace Client

variable {α : Type}

/-- The client with another token. -/
def withToken (client : Client α) (token : String) : Client α := { client with token }

/-- Another token changes nothing but the authorization of a request. -/
theorem request?_withToken {client : Client α} {token : String}
    (plain : isHeaderText client.token = true) (plain' : isHeaderText token = true) (call : Call) :
    ((client.withToken token).request? call).map Request.masked =
      (client.request? call).map Request.masked := by
  simp only [request?, withToken, plain, plain']
  split
  · rfl
  · split
    · rfl
    · rfl

/-- Connections that look the same: only authorizations in their logs differ. -/
structure Alike (c c' : Connection α) : Prop where
  network : c.network = c'.network
  bucket : c.bucket = c'.bucket
  clock : c.clock = c'.clock
  seen : c.seen = c'.seen

variable [Measure α]

theorem attempt_alike {client : Client α} {token : String}
    (plain : isHeaderText client.token = true) (plain' : isHeaderText token = true) (call : Call)
    {c c' : Connection α} (h : Alike c c') :
    Listing.Agree Alike (client.attempt call c) ((client.withToken token).attempt call c') := by
  obtain ⟨network, bucket, clock, log⟩ := c
  obtain ⟨network', bucket', clock', log'⟩ := c'
  obtain ⟨rfl, rfl, rfl, hseen⟩ := h
  have hlog : log.map Event.masked = log'.map Event.masked := hseen
  have written := request?_withToken plain plain' call
  rw [attempt, attempt]
  cases hr : client.request? call with
  | none =>
    rw [hr, Option.map_none, Option.map_eq_none_iff] at written
    rw [written]
    exact ⟨rfl, rfl, rfl, rfl, by simp [Connection.seen, hlog]⟩
  | some r =>
    rw [hr, Option.map_some, Option.map_eq_some_iff] at written
    obtain ⟨r', hr', hmasked⟩ := written
    rw [hr']
    obtain ⟨reply, network, sent⟩ := exchange_of_masked hmasked.symm redirectLimit network
    have seen : ∀ requests : List Request, (requests.map Event.sent).map Event.masked =
        (requests.map Request.masked).map (Event.sent (α := α)) := by
      intro requests
      rw [List.map_map, List.map_map]
      rfl
    refine ⟨reply, network, rfl, rfl, ?_⟩
    simp only [Connection.seen, List.map_append, hlog, seen, sent]

end Client

end Remote

namespace Listing

open Remote Client

/-- Clients that differ in their token only are in step. -/
theorem inStep_withToken {α : Type} [Measure α] {client : Client α} {token : String}
    (plain : isHeaderText client.token = true) (plain' : isHeaderText token = true) :
    InStep client (client.withToken token) (fun _ => True) Alike where
  retries := rfl
  backoffStart := rfl
  first := trivial
  doubled := fun _ _ => trivial
  attempt := fun call _ _ h => attempt_alike plain plain' call h
  paused := by
    intro pause c c' _ h
    refine ⟨h.network, h.bucket, ?_, ?_⟩
    · simp only [pausedFor, h.clock]
    · have hlog : c.log.map Event.masked = c'.log.map Event.masked := h.seen
      simp only [Connection.seen, pausedFor, List.map_append, hlog]

theorem visits_alike {α : Type} [Measure α] {client : Client α} {token : String}
    (plain : isHeaderText client.token = true) (plain' : isHeaderText token = true)
    (vs : List (Visit α)) {c c' : Connection α} (h : Alike c c') :
    Agree Alike (visits client c vs) (visits (client.withToken token) c' vs) := by
  induction vs generalizing c c' with
  | nil => exact ⟨rfl, h⟩
  | cons v rest ih =>
    have later : Alike (waited c v.idle) (waited c' v.idle) :=
      ⟨h.network, h.bucket, congrArg (· + v.idle) h.clock, h.seen⟩
    obtain ⟨shown, related⟩ := (inStep_withToken plain plain').use v.use later
    obtain ⟨more, last⟩ := ih related
    rw [visits_cons, visits_cons]
    exact ⟨by rw [shown, more], last⟩

/-- Whatever a client is used for, nothing of what it tells, sleeps and sends depends on the token,
the authorization of its requests apart; neither do the descriptions of the client and the report of
its settings. -/
theorem visits_hide_token (s : Settings) (token : String) (network : Network) (clock : Binary64)
    (vs : List (Visit Binary64)) (plain : isHeaderText s.token = true)
    (plain' : isHeaderText token = true) :
    let client := ofSettings s
    let client' := ofSettings (s.withToken token)
    let run := visits client (client.connect network clock) vs
    let run' := visits client' (client'.connect network clock) vs
    run.1 = run'.1 ∧ run.2.seen = run'.2.seen ∧
      run.2.clock = run'.2.clock ∧ run.2.bucket = run'.2.bucket ∧
      client.base = client'.base ∧ client.describe = client'.describe ∧
      client.describeQuoted = client'.describeQuoted ∧
      s.redacted = (s.withToken token).redacted := by
  intro client client' run run'
  have same : Alike (client.connect network clock) (client'.connect network clock) :=
    ⟨rfl, rfl, rfl, rfl⟩
  obtain ⟨shown, alike⟩ : Agree Alike run run' := visits_alike plain plain' vs same
  exact ⟨shown, alike.seen, alike.clock, alike.bucket, rfl, rfl, rfl, rfl⟩

/-- Two tokens, and a server that fails once, sends the next request elsewhere, and then has no
tasks. -/
theorem visits_hide_token_of_two_tokens :
    let token := "open sesame"
    let client := ofSettings localSettings
    let client' := ofSettings (localSettings.withToken token)
    let network : Network :=
      ⟨[.answered 503 none .empty, .answered 302 (some "https://[::2]/x") .empty], some []⟩
    let vs : List (Visit Binary64) := [⟨0, .connectivity⟩,
      ⟨1, .listing {} (.ofDay 738000 none) [] [("filter", .text "done = true")]⟩]
    let run := visits client (client.connect network 0) vs
    let run' := visits client' (client'.connect network 0) vs
    isHeaderText localSettings.token = true ∧ isHeaderText token = true ∧
      (client.request? ⟨"GET", "info", none, none, true⟩).map Request.authorization =
        some (some "Bearer tok") ∧
      (client'.request? ⟨"GET", "info", none, none, true⟩).map Request.authorization =
        some (some "Bearer open sesame") ∧
      run.1 = run'.1 ∧ run.2.seen = run'.2.seen := by
  intro token client client' network vs run run'
  obtain ⟨shown, seen, -⟩ :=
    visits_hide_token localSettings token network 0 vs (by decide) (by decide)
  exact ⟨by decide, by decide, by decide +kernel, by decide +kernel, shown, seen⟩

end Listing

end TaskSieve
