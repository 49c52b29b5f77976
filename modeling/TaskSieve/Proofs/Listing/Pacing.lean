import TaskSieve.Proofs.Listing.Usage
import TaskSieve.Proofs.RateLimit.Grants

set_option autoImplicit false

/-! # The pace of requests

Each attempt takes a token before it sends its request. If the request is sent elsewhere, what
follows belongs to the same attempt and takes no token. So the limiter bounds the exchanges that a
client starts in a window of time, whatever the client is used for; it bounds the requests as well
if none is sent elsewhere, and otherwise only as many times over as redirects are followed. -/

namespace TaskSieve.Remote

open Bucket (Moment Sound Awaits countWithin)

/-! ## When requests are sent -/

section

variable {α : Type} [Measure α]

/-- The time after some events: sleeps take time, and nothing else does. -/
def timeAfter (now : α) : List (Event α) → α
  | [] => now
  | .throttled seconds :: rest => timeAfter (now + seconds) rest
  | .pausedFor seconds :: rest => timeAfter (now + seconds) rest
  | .sent _ :: rest => timeAfter now rest

/-- The requests among some events, each with the time at which it was sent. -/
def timed (now : α) : List (Event α) → List (α × Request)
  | [] => []
  | .throttled seconds :: rest => timed (now + seconds) rest
  | .pausedFor seconds :: rest => timed (now + seconds) rest
  | .sent r :: rest => (now, r) :: timed now rest

theorem timeAfter_append (now : α) (before after : List (Event α)) :
    timeAfter now (before ++ after) = timeAfter (timeAfter now before) after := by
  induction before generalizing now with
  | nil => rfl
  | cons e rest ih => cases e <;> exact ih _

theorem timed_append (now : α) (before after : List (Event α)) :
    timed now (before ++ after) = timed now before ++ timed (timeAfter now before) after := by
  induction before generalizing now with
  | nil => rfl
  | cons e rest ih =>
    cases e with
    | throttled seconds => exact ih _
    | pausedFor seconds => exact ih _
    | sent r => exact congrArg ((now, r) :: ·) (ih now)

theorem timed_throttled (now : α) (slept : List α) : timed now (slept.map .throttled) = [] := by
  induction slept generalizing now with
  | nil => rfl
  | cons seconds rest ih => exact ih _

theorem timeAfter_sent (now : α) (requests : List Request) :
    timeAfter now (requests.map .sent) = now := by
  induction requests with
  | nil => rfl
  | cons r rest ih => exact ih

theorem timed_sent (now : α) (requests : List Request) :
    timed now (requests.map .sent) = requests.map (now, ·) := by
  induction requests with
  | nil => rfl
  | cons r rest ih => exact congrArg ((now, r) :: ·) ih

/-- Patience ends when its sleeps are over. -/
theorem timeAfter_of_awaits {b : Bucket α} {now : α} {served : Served α}
    (h : Awaits b now served) :
    timeAfter now (served.slept.map .throttled) = served.clock := by
  induction h with
  | ready _ => rfl
  | short _ _ ih => exact ih

end

/-! ## Requests of one exchange -/

/-- A redirect makes one request of another. -/
def Request.LeadsTo (r r' : Request) : Prop :=
  ∃ status place link, redirects status = true ∧ r.link.follow? place = some link ∧
    r' = r.redirected status link

theorem leadsTo_of_goesTo? {r : Request} {o : Outcome} {status : Nat} {link : Web.Link}
    (h : o.goesTo? r.link = some (status, link)) : r.LeadsTo (r.redirected status link) := by
  cases o with
  | answered status' location body =>
    cases location with
    | none => exact absurd h (by simp [Outcome.goesTo?])
    | some place =>
      rw [Outcome.goesTo?] at h
      split at h
      · next hboth =>
        obtain ⟨link', hfollow, heq⟩ := Option.map_eq_some_iff.1 h
        obtain ⟨rfl, rfl⟩ := Prod.mk.inj heq
        exact ⟨status', place, link', hboth.2, hfollow, rfl⟩
      · exact absurd h (by simp)
  | timeout => exact absurd h (by simp [Outcome.goesTo?])
  | unreachable => exact absurd h (by simp [Outcome.goesTo?])
  | broken => exact absurd h (by simp [Outcome.goesTo?])

/-- Every request of an exchange but the first one comes from a redirect of the one before, and the
network can only have lost outcomes. -/
theorem exchange_spec (left : Nat) (r : Request) (n : Network) :
    (exchange left r n).sent.IsChain Request.LeadsTo ∧ (exchange left r n).sent.head? = some r ∧
      (exchange left r n).sent.length ≤ left + 1 ∧
      (exchange left r n).network.script ⊆ n.script := by
  induction left generalizing r n with
  | zero =>
    rw [exchange_of_final (.inl rfl)]
    exact ⟨.singleton r, rfl, le_refl 1, Network.script_send_subset n r⟩
  | succ left ih =>
    cases hgoes : (n.send r).1.goesTo? r.link with
    | none =>
      rw [exchange_of_final (.inr hgoes)]
      exact ⟨.singleton r, rfl, by simp, Network.script_send_subset n r⟩
    | some place =>
      obtain ⟨status, link⟩ := place
      -- the rest starts with the request that the answer redirects to
      obtain ⟨chain, hhead, hlength, hscript⟩ := ih (r.redirected status link) (n.send r).2
      rw [exchange_of_goesTo left hgoes]
      refine ⟨?_, rfl, by simpa using hlength, ?_⟩
      · refine List.isChain_cons.2 ⟨fun r' hr' => ?_, chain⟩
        rw [hhead] at hr'
        rw [← Option.mem_some_iff.1 hr']
        exact leadsTo_of_goesTo? hgoes
      · exact List.Subset.trans hscript (Network.script_send_subset n r)

/-! ## Exchanges and tokens -/

/-- Exchanges, each with the time of its token: the requests that they consist of. -/
def sentIn (exchanges : List (Rat × List Request)) : List (Rat × Request) :=
  exchanges.flatMap fun e => e.2.map (e.1, ·)

theorem sentIn_append (exchanges exchanges' : List (Rat × List Request)) :
    sentIn (exchanges ++ exchanges') = sentIn exchanges ++ sentIn exchanges' :=
  List.flatMap_append

/-- Between two moments of a connection the bucket granted one token for each exchange, at its time.
Later requests of an exchange come from redirects; without redirects there are none. -/
structure Paced (c : Connection Rat) (exchanges : List (Rat × List Request)) (c' : Connection Rat) :
    Prop where
  granted : ∃ actions, (∀ a ∈ actions, a.Forward) ∧
    (⟨c.bucket, c.clock⟩ : Moment Rat).run actions =
      (exchanges.map Prod.fst, ⟨c'.bucket, c'.clock⟩)
  followed : ∀ e ∈ exchanges, e.2.IsChain Request.LeadsTo ∧ e.2.length ≤ redirectLimit + 1
  direct : (∀ link, c.network.Direct link) →
    (∀ e ∈ exchanges, e.2.length ≤ 1) ∧ ∀ link, c'.network.Direct link

/-- The log tells of the exchanges, each at its time. -/
def Logged (c : Connection Rat) (exchanges : List (Rat × List Request)) (c' : Connection Rat) :
    Prop :=
  ∃ events, c'.log = c.log ++ events ∧ timed c.clock events = sentIn exchanges ∧
    timeAfter c.clock events = c'.clock

variable {c c' c'' : Connection Rat} {exchanges exchanges' : List (Rat × List Request)}

theorem Paced.refl (c : Connection Rat) : Paced c [] c where
  granted := ⟨[], by simp, rfl⟩
  followed := by simp
  direct := fun h => ⟨by simp, h⟩

theorem Paced.trans (h : Paced c exchanges c') (h' : Paced c' exchanges' c'') :
    Paced c (exchanges ++ exchanges') c'' where
  granted := by
    obtain ⟨actions, forward, hrun⟩ := h.granted
    obtain ⟨actions', forward', hrun'⟩ := h'.granted
    refine ⟨actions ++ actions', ?_, ?_⟩
    · intro a ha
      rcases List.mem_append.1 ha with ha | ha
      · exact forward a ha
      · exact forward' a ha
    · rw [Moment.run_append, hrun]
      dsimp only
      rw [hrun', List.map_append]
  followed := by
    intro e he
    rcases List.mem_append.1 he with he | he
    · exact h.followed e he
    · exact h'.followed e he
  direct := by
    intro hdirect
    obtain ⟨first, between⟩ := h.direct hdirect
    obtain ⟨second, after⟩ := h'.direct between
    refine ⟨fun e he => ?_, after⟩
    rcases List.mem_append.1 he with he | he
    · exact first e he
    · exact second e he

/-- What is granted leaves a sound bucket sound. -/
theorem Paced.sound (h : Paced c exchanges c') (sound : Sound c.bucket c.clock) :
    Sound c'.bucket c'.clock := by
  obtain ⟨actions, forward, hrun⟩ := h.granted
  have after := (sound.run (m := ⟨c.bucket, c.clock⟩) forward).1
  rwa [hrun] at after

theorem Logged.refl (c : Connection Rat) : Logged c [] c :=
  ⟨[], (List.append_nil _).symm, rfl, rfl⟩

theorem Logged.trans (h : Logged c exchanges c') (h' : Logged c' exchanges' c'') :
    Logged c (exchanges ++ exchanges') c'' := by
  obtain ⟨events, hlog, htimed, hclock⟩ := h
  obtain ⟨events', hlog', htimed', hclock'⟩ := h'
  refine ⟨events ++ events', ?_, ?_, ?_⟩
  · rw [hlog', hlog, List.append_assoc]
  · rw [timed_append, htimed, hclock, htimed', sentIn_append]
  · rw [timeAfter_append, hclock, hclock']

/-- Time that passes grants nothing. -/
theorem paced_clock (c : Connection Rat) {seconds : Rat} (forward : 0 ≤ seconds)
    (log : List (Event Rat)) : Paced c [] { c with clock := c.clock + seconds, log } where
  granted := by
    refine ⟨[.wait seconds], fun a ha => ?_, rfl⟩
    rw [List.mem_singleton.1 ha]
    exact forward
  followed := by simp
  direct := fun h => ⟨by simp, h⟩

namespace Client

/-- An attempt takes a token for its one exchange. -/
theorem attempt_paced (client : Client Rat) (call : Call) {c : Connection Rat}
    (sound : Sound c.bucket c.clock) :
    ∃ exchanges, Paced c exchanges (client.attempt call c).2 ∧
      Logged c exchanges (client.attempt call c).2 := by
  have forward : ∀ a ∈ [Bucket.Action.take], a.Forward := by
    intro a ha
    rw [List.mem_singleton.1 ha]
    trivial
  have slept : timeAfter c.clock ((c.bucket.take c.clock).slept.map .throttled) =
    (c.bucket.take c.clock).clock := timeAfter_of_awaits sound.awaits_take
  have silent := timed_throttled c.clock (c.bucket.take c.clock).slept
  rw [attempt]
  cases client.request? call with
  | none =>
    refine ⟨[((c.bucket.take c.clock).clock, [])],
      ⟨⟨[.take], forward, rfl⟩, ?_, fun h => ⟨?_, h⟩⟩, _, rfl, silent, slept⟩
    · intro e he
      rw [List.mem_singleton.1 he]
      exact ⟨.nil, by simp⟩
    · intro e he
      rw [List.mem_singleton.1 he]
      simp
  | some r =>
    obtain ⟨chain, -, hlength, hscript⟩ := exchange_spec redirectLimit r c.network
    refine ⟨[((c.bucket.take c.clock).clock, (exchange redirectLimit r c.network).sent)],
      ⟨⟨[.take], forward, rfl⟩, ?_, fun h => ⟨?_, ?_⟩⟩, _, List.append_assoc _ _ _, ?_, ?_⟩
    · intro e he
      rw [List.mem_singleton.1 he]
      exact ⟨chain, hlength⟩
    · intro e he
      rw [List.mem_singleton.1 he, exchange_of_direct (h r.link)]
      exact le_refl 1
    · exact fun link o ho => h link o (hscript ho)
    · rw [timed_append, silent, slept, timed_sent]
      simp [sentIn]
    · rw [timeAfter_append, slept, timeAfter_sent]

end Client

end TaskSieve.Remote

namespace TaskSieve.Listing

open Remote Client
open Bucket (Moment Sound Awaits countWithin)

/-! ## Any use of a client -/

/-- From a moment on, a client keeps its pace. -/
theorem inStep_paced (client : Client Rat) (forward : 0 ≤ client.backoffStart)
    {start : Connection Rat} (sound : Sound start.bucket start.clock) :
    InStep client client (0 ≤ ·) fun c c' => c = c' ∧
      ∃ exchanges, Paced start exchanges c ∧ Logged start exchanges c where
  retries := rfl
  backoffStart := rfl
  first := forward
  doubled := fun pause h => mul_nonneg h (Nat.cast_nonneg (α := Rat) 2)
  attempt := by
    rintro call c _ ⟨rfl, exchanges, paced, logged⟩
    obtain ⟨more, paced', logged'⟩ := client.attempt_paced call (paced.sound sound)
    exact ⟨rfl, rfl, _, paced.trans paced', logged.trans logged'⟩
  paused := by
    rintro pause c _ made ⟨rfl, exchanges, paced, logged⟩
    have logged' : Logged c [] (pausedFor c pause) := ⟨[.pausedFor pause], rfl, rfl, rfl⟩
    exact ⟨rfl, _, paced.trans (paced_clock c made _), logged.trans logged'⟩

theorem use_paced (client : Client Rat) (forward : 0 ≤ client.backoffStart) (u : Use)
    {c : Connection Rat} (sound : Sound c.bucket c.clock) :
    ∃ exchanges, Paced c exchanges (u.run client c).2 ∧ Logged c exchanges (u.run client c).2 :=
  ((inStep_paced client forward sound).use u ⟨rfl, [], .refl c, .refl c⟩).2.2

/-- The requests that are sent while a client is used, each with the time at which it was sent. -/
def timeline {α : Type} [Measure α] (client : Client α) (c : Connection α) :
    List (Visit α) → List (α × Request)
  | [] => []
  | v :: rest =>
    let after := (v.use.run client (waited c v.idle)).2
    timed (waited c v.idle).clock (after.log.drop c.log.length) ++ timeline client after rest

theorem visits_paced (client : Client Rat) (forward : 0 ≤ client.backoffStart)
    {vs : List (Visit Rat)} (idle : ∀ v ∈ vs, 0 ≤ v.idle) {c : Connection Rat}
    (sound : Sound c.bucket c.clock) :
    ∃ exchanges, Paced c exchanges (visits client c vs).2 ∧
      timeline client c vs = sentIn exchanges := by
  induction vs generalizing c with
  | nil => exact ⟨[], .refl c, rfl⟩
  | cons v rest ih =>
    have later : ∀ v ∈ rest, 0 ≤ v.idle := fun v hv => idle v (List.mem_cons_of_mem _ hv)
    have passed : Paced c [] (waited c v.idle) := paced_clock c (idle v List.mem_cons_self) c.log
    obtain ⟨exchanges, paced, events, hlog, htimed, -⟩ :=
      use_paced client forward v.use (passed.sound sound)
    -- the later visits start from the bucket and the time that this one leaves
    obtain ⟨exchanges', paced', htimeline⟩ := ih later (paced.sound (passed.sound sound))
    have new : (v.use.run client (waited c v.idle)).2.log.drop c.log.length = events := by
      rw [hlog]
      exact List.drop_left
    refine ⟨exchanges ++ exchanges', (passed.trans paced).trans paced', ?_⟩
    rw [timeline, new, htimed, htimeline, sentIn_append]

/-- A window holds at most so many requests for each exchange in it. -/
theorem countWithin_sentIn_le {exchanges : List (Rat × List Request)} {most : Nat}
    (h : ∀ e ∈ exchanges, e.2.length ≤ most) (t₁ t₂ : Rat) :
    countWithin t₁ t₂ ((sentIn exchanges).map Prod.fst) ≤
      most * countWithin t₁ t₂ (exchanges.map Prod.fst) := by
  induction exchanges with
  | nil => exact Nat.zero_le _
  | cons e rest ih =>
    obtain ⟨t, requests⟩ := e
    have later := ih fun e he => h e (List.mem_cons_of_mem _ he)
    have few : requests.length ≤ most := h _ List.mem_cons_self
    -- all requests of an exchange count at the time of its token
    have split : (sentIn ((t, requests) :: rest)).map Prod.fst =
        List.replicate requests.length t ++ (sentIn rest).map Prod.fst := by
      rw [sentIn, List.flatMap_cons, List.map_append, List.map_map]
      congr 1
      exact List.map_const'
    rw [split, Bucket.countWithin_append, List.map_cons]
    by_cases within : t₁ ≤ t ∧ t ≤ t₂
    · have all : countWithin t₁ t₂ (List.replicate requests.length t) = requests.length := by
        rw [countWithin, List.countP_replicate, if_pos (by simpa using within)]
      have one : countWithin t₁ t₂ (t :: rest.map Prod.fst) =
          countWithin t₁ t₂ (rest.map Prod.fst) + 1 :=
        List.countP_cons_of_pos (by simpa using within)
      rw [all, one, Nat.mul_succ]
      omega
    · have none : countWithin t₁ t₂ (List.replicate requests.length t) = 0 := by
        rw [countWithin, List.countP_replicate, if_neg (by simpa using within)]
      have same : countWithin t₁ t₂ (t :: rest.map Prod.fst) =
          countWithin t₁ t₂ (rest.map Prod.fst) :=
        List.countP_cons_of_neg (by simpa using within)
      rw [none, same, Nat.zero_add]
      exact later

/-- How many tokens are granted in a window, at most: what the bucket can hold, and what it earns
meanwhile. -/
def allowance (limits : Limits) (t₁ t₂ : Rat) : Rat :=
  limits.burst + limits.rpm / 60 * (t₂ - t₁)

theorem count_le_allowance (limits : Limits) (start : Rat) {actions : List (Bucket.Action Rat)}
    (forward : ∀ a ∈ actions, a.Forward) {t₁ t₂ : Rat} (hle : t₁ ≤ t₂) :
    (countWithin t₁ t₂ ((⟨.full limits start, start⟩ : Moment Rat).run actions).1 : Rat) ≤
      allowance limits t₁ t₂ := by
  have bound := (Sound.full limits start).count_le (m := ⟨.full limits start, start⟩) forward hle
  rw [Bucket.rate_eq] at bound
  calc _ ≤ (limits.burst : Rat) + (t₂ - t₁) * (limits.rpm / 60) := bound
    _ = allowance limits t₁ t₂ := by rw [allowance, mul_comm]

/-- A bucket holds between nothing and its capacity at all times, grants in a window at most what it
can hold and what it earns meanwhile, and has whoever waits for a token sleep at most once, for as
long as the missing part takes to be earned. A client starts at most so many exchanges in a window,
whatever it is used for, each with one token. Only requests that come from redirects take none:
without them the bound holds of the requests, too. -/
theorem limits_bound_exchanges (limits : Limits) (start : Rat) :
    (∀ actions : List (Bucket.Action Rat), (∀ a ∈ actions, a.Forward) →
      let run := (⟨.full limits start, start⟩ : Moment Rat).run actions
      let b := run.2.bucket
      let now := run.2.clock
      0 ≤ b.tokens ∧ b.tokens ≤ limits.burst ∧
        (∀ t₁ t₂, t₁ ≤ t₂ → (countWithin t₁ t₂ run.1 : Rat) ≤ allowance limits t₁ t₂) ∧
        Awaits b now (b.take now) ∧
        ((b.take now).slept = [] ∨
          (b.take now).slept = [(1 - (b.refill now).tokens) * 60 / limits.rpm])) ∧
    ∀ (client : Client Rat) (network : Network) (vs : List (Visit Rat)), client.limits = limits →
      0 ≤ client.backoffStart → (∀ v ∈ vs, 0 ≤ v.idle) →
      ∃ exchanges, timeline client (client.connect network start) vs = sentIn exchanges ∧
        (∀ e ∈ exchanges, e.2.IsChain Request.LeadsTo ∧ e.2.length ≤ redirectLimit + 1) ∧
        ∀ t₁ t₂, t₁ ≤ t₂ →
          (countWithin t₁ t₂ (exchanges.map Prod.fst) : Rat) ≤ allowance limits t₁ t₂ ∧
          ((∀ link, network.Direct link) →
            (countWithin t₁ t₂ ((sentIn exchanges).map Prod.fst) : Rat) ≤
              allowance limits t₁ t₂) := by
  refine ⟨fun actions forward => ?_, fun client network vs hlimits hbackoff idle => ?_⟩
  · intro run b now
    obtain ⟨sound, hlimits, -⟩ :=
      (Sound.full limits start).run (m := ⟨.full limits start, start⟩) forward
    have hburst : b.tokens ≤ limits.burst := by
      have := sound.le_burst
      rwa [hlimits] at this
    refine ⟨sound.nonneg, hburst, fun t₁ t₂ hle => count_le_allowance limits start forward hle,
      sound.awaits_take, ?_⟩
    rcases sound.take_cases with ⟨-, htake⟩ | ⟨-, _, -, -, htake⟩
    · exact .inl (by rw [htake])
    · have rpm : (b.refill now).limits.rpm = limits.rpm :=
        congrArg Limits.rpm (Bucket.limits_refill.trans hlimits)
      refine .inr ?_
      rw [htake]
      dsimp only
      rw [Bucket.shortfall_eq, rpm]
  · subst hlimits
    obtain ⟨exchanges, paced, htimeline⟩ :=
      visits_paced client hbackoff idle (c := client.connect network start)
        (Sound.full client.limits start)
    obtain ⟨actions, forward, hrun⟩ := paced.granted
    have bound : ∀ t₁ t₂, t₁ ≤ t₂ → (countWithin t₁ t₂ (exchanges.map Prod.fst) : Rat) ≤
        allowance client.limits t₁ t₂ := by
      intro t₁ t₂ hle
      have := count_le_allowance client.limits start forward hle
      rwa [show (⟨.full client.limits start, start⟩ : Moment Rat).run actions = _ from hrun] at this
    refine ⟨exchanges, htimeline, paced.followed, fun t₁ t₂ hle => ⟨bound t₁ t₂ hle, ?_⟩⟩
    intro hdirect
    have few := countWithin_sentIn_le (paced.direct hdirect).1 t₁ t₂
    rw [Nat.one_mul] at few
    calc (countWithin t₁ t₂ ((sentIn exchanges).map Prod.fst) : Rat)
        ≤ countWithin t₁ t₂ (exchanges.map Prod.fst) := by exact_mod_cast few
      _ ≤ allowance client.limits t₁ t₂ := bound t₁ t₂ hle

/-- One token, and two requests at once: the second one comes from a redirect of the first. -/
theorem limits_bound_exchanges_of_redirect :
    let limits : Limits := ⟨1, 1, by decide, by decide⟩
    let client : Client Rat :=
      ⟨"https://v.example.com/api/v1", "tok", "vikunja-mcp/0.1.0", limits, 2, 1 / 4⟩
    let network : Network := ⟨[.answered 302 (some "/api/v1/version") .empty,
      .answered 200 none (.json (.record [("version", .text "v1")]))], some []⟩
    let sent := timeline client (client.connect network 0)
      [⟨0, .call ⟨"GET", "info", none, none, true⟩⟩]
    sent.map (fun x => (x.1, x.2.link.path)) = [(0, "/api/v1/info"), (0, "/api/v1/version")] ∧
      allowance limits 0 0 = 1 ∧
      (∃ exchanges, sent = sentIn exchanges ∧
        (countWithin 0 0 (exchanges.map Prod.fst) : Rat) ≤ allowance limits 0 0) ∧
      (countWithin 0 0 ((⟨.full limits 0, 0⟩ : Moment Rat).run [.take, .take]).1 : Rat) ≤
        allowance limits 0 0 := by
  intro limits client network sent
  have takes : ∀ a ∈ [Bucket.Action.take, .take], a.Forward := by
    intro a ha
    rcases List.mem_cons.1 ha with rfl | ha
    · trivial
    · rw [List.mem_singleton.1 ha]
      trivial
  have backoff : (0 : Rat) ≤ 1 / 4 := by norm_num
  have idle : ∀ v ∈ [(⟨0, .call ⟨"GET", "info", none, none, true⟩⟩ : Visit Rat)], 0 ≤ v.idle := by
    intro v hv
    rw [List.mem_singleton.1 hv]
  obtain ⟨granted, paced⟩ := limits_bound_exchanges limits 0
  obtain ⟨exchanges, hsent, -, bound⟩ := paced client network _ rfl backoff idle
  exact ⟨by decide +kernel, by decide +kernel,
    ⟨exchanges, hsent, (bound 0 0 (le_refl 0)).1⟩, (granted _ takes).2.2.1 0 0 (le_refl 0)⟩

end TaskSieve.Listing
