import TaskSieve.Proofs.Number.Doubling
import TaskSieve.Proofs.RateLimit.Grants
import TaskSieve.Proofs.Remote.Trace
import TaskSieve.Proofs.Schema.Value

set_option autoImplicit false

/-! # Retries

A call is attempted until an outcome does not look transient or no attempts are left. How often its
request is sent, how long the client pauses in between and what the call comes to is told from the
outcomes alone: the result is what the last of them gives, each attempt takes one token, for which
the limiter sleeps as long as need be, and each pause is exactly twice as long as the one before. -/

namespace TaskSieve.Remote

open Web (Link)
open Bucket (Moment Takes Sound)

/-! ## Outcomes one after the other -/

/-- What becomes of a request that is sent for the time `i + 1`: outcomes are taken from the script,
and what comes after them from the server. -/
def Network.outcomeAt (n : Network) (r : Request) (i : Nat) : Outcome :=
  match n.script[i]? with
  | some outcome => outcome
  | none => (Network.send ⟨[], n.backend⟩ r).1

/-- The reply to a request that is sent for the time `i + 1` and not followed elsewhere. -/
def Network.replyAt (n : Network) (r : Request) (i : Nat) : Reply :=
  (n.outcomeAt r i).replyOn r.link

theorem Network.outcomeAt_zero (n : Network) (r : Request) : n.outcomeAt r 0 = (n.send r).1 := by
  obtain ⟨script, backend⟩ := n
  cases script <;> rfl

theorem Network.outcomeAt_succ (n : Network) (r : Request) (i : Nat) :
    n.outcomeAt r (i + 1) = (n.send r).2.outcomeAt r i := by
  obtain ⟨script, backend⟩ := n
  cases script with
  | nil => cases backend <;> rfl
  | cons first rest => rfl

/-! ## Attempts with pauses between them -/

/-- Whether an event is a sleep of the limiter. -/
def Event.isThrottled {α : Type} : Event α → Bool
  | .throttled _ => true
  | _ => false

theorem filter_throttled {α : Type} (slept : List α) :
    (slept.map Event.throttled).filter (!·.isThrottled) = [] := by
  rw [List.filter_eq_nil_iff]
  intro e he
  obtain ⟨s, -, rfl⟩ := List.mem_map.1 he
  simp [Event.isThrottled]

section Repeats

variable {α : Type}

/-- A request and its repetitions, each after a pause. -/
def rounds (r : Request) (pauses : List α) : List (Event α) :=
  .sent r :: pauses.flatMap fun pause => [.pausedFor pause, .sent r]

theorem filterMap_rounds (r : Request) (pauses : List α) :
    (rounds r pauses).filterMap Event.request? = List.replicate (pauses.length + 1) r := by
  induction pauses with
  | nil => rfl
  | cons pause rest ih =>
    have once : rounds r (pause :: rest) = .sent r :: .pausedFor pause :: rounds r rest := rfl
    rw [once, List.length_cons, List.replicate_succ, ← ih]
    rfl

/-- Sleeps of the limiter do not change what was sent. -/
theorem filterMap_filter_throttled (events : List (Event α)) :
    (events.filter (!·.isThrottled)).filterMap Event.request? =
      events.filterMap Event.request? := by
  induction events with
  | nil => rfl
  | cons e rest ih =>
    cases e with
    | throttled seconds => exact ih
    | pausedFor seconds => exact ih
    | sent request => exact congrArg (request :: ·) ih

variable [Measure α]

/-- The bucket and the time of a connection. -/
def Connection.moment (c : Connection α) : Moment α := ⟨c.bucket, c.clock⟩

/-- One token was taken between two moments of a connection, and another one after each pause, if
the sleeps of the limiter end at all. -/
def Pays (pauses : List α) (c c' : Connection α) : Prop :=
  (∃ m, Takes pauses c.moment m) → Takes pauses c.moment c'.moment

/-- Between two moments of a connection a request was sent, once more after each pause, and each
time a token was taken for it; the limiter slept when it had to. -/
structure Repeats (r : Request) (pauses : List α) (c c' : Connection α) : Prop where
  limiter : Pays pauses c c'
  log : ∃ events, c'.log = c.log ++ events ∧
    events.filter (!·.isThrottled) = rounds r pauses

/-- A request is sent once more than there are pauses. -/
theorem Repeats.requests {r : Request} {pauses : List α} {c c' : Connection α}
    (h : Repeats r pauses c c') :
    c'.requests = c.requests ++ List.replicate (pauses.length + 1) r := by
  obtain ⟨events, hlog, hevents⟩ := h.log
  rw [Connection.requests, hlog, List.filterMap_append, ← filterMap_filter_throttled events,
    hevents, filterMap_rounds]
  rfl

end Repeats

namespace Client

variable {α : Type} [Measure α] {client : Client α} {call : Call} {r : Request} {c : Connection α}

/-- Whether or not its request can be sent, an attempt takes a token. -/
theorem moment_attempt (client : Client α) (call : Call) (c : Connection α) :
    (client.attempt call c).2.moment =
      ⟨(c.bucket.take c.clock).bucket, (c.bucket.take c.clock).clock⟩ := by
  rw [attempt]
  split <;> rfl

theorem attempt_pays (client : Client α) (call : Call) (c : Connection α) :
    Pays [] c (client.attempt call c).2 := by
  rintro ⟨m, taken⟩
  rw [moment_attempt]
  cases taken with
  | last paid =>
    have served : c.bucket.take c.clock = _ := paid.take_eq
    rw [served]
    exact .last paid

theorem moment_pausedFor (c : Connection α) (pause : α) :
    (pausedFor c pause).moment = ⟨c.moment.bucket, c.moment.clock + pause⟩ := rfl

/-- After an attempt and a pause, tokens are taken in the same way. -/
theorem pays_again {pause : α} {pauses : List α} {c' : Connection α}
    (h : Pays pauses (pausedFor (client.attempt call c).2 pause) c') :
    Pays (pause :: pauses) c c' := by
  rw [Pays, moment_pausedFor, moment_attempt] at h
  rintro ⟨m, taken⟩
  cases taken with
  | again paid later =>
    have served : c.bucket.take c.clock = _ := paid.take_eq
    rw [served] at h
    exact .again paid (h ⟨m, later⟩)

/-- An attempt sends its request once. -/
theorem attempt_repeats (hr : client.request? call = some r) (direct : c.network.Direct r.link) :
    Repeats r [] c (client.attempt call c).2 := by
  refine ⟨attempt_pays client call c, ?_⟩
  rw [attempt_of_direct hr direct]
  refine ⟨_, List.append_assoc _ _ _, ?_⟩
  rw [List.filter_append, filter_throttled]
  rfl

/-- After an attempt and a pause the rest goes on in the same way. -/
theorem repeats_again (hr : client.request? call = some r) (direct : c.network.Direct r.link)
    {pause : α} {pauses : List α} {c' : Connection α}
    (h : Repeats r pauses (pausedFor (client.attempt call c).2 pause) c') :
    Repeats r (pause :: pauses) c c' := by
  obtain ⟨limiter, events, hlog, hevents⟩ := h
  rw [attempt_of_direct hr direct] at hlog
  refine ⟨pays_again limiter, (c.bucket.take c.clock).slept.map .throttled ++
    ([.sent r, .pausedFor pause] ++ events), hlog.trans ?_, ?_⟩
  · simp [pausedFor]
  · rw [List.filter_append, filter_throttled, List.filter_append, hevents]
    rfl

/-- The first reply that is not transient, or the last one that retries are left for, ends the
attempts. -/
theorem attempts_eq_replyAt (hr : client.request? call = some r) {retries k : Nat}
    (direct : c.network.Direct r.link) (pause : α) (hk : k ≤ retries)
    (before : ∀ i < k, isTransient (c.network.replyAt r i) = true)
    (last : k = retries ∨ isTransient (c.network.replyAt r k) = false) :
    (client.attempts call retries pause c).1 = c.network.replyAt r k ∧
      Repeats r (doublings pause k) c (client.attempts call retries pause c).2 := by
  have first : (client.attempt call c).1 = c.network.replyAt r 0 := by
    rw [attempt_of_direct hr direct, Network.replyAt, Network.outcomeAt_zero]
  -- the attempts are followed one by one, with the outcomes and the pauses that are left
  induction retries generalizing k pause c with
  | zero =>
    obtain rfl : k = 0 := by omega
    rw [attempts_zero]
    exact ⟨first, attempt_repeats hr direct⟩
  | succ retries ih =>
    rw [attempts_succ, first]
    cases k with
    | zero =>
      have settled : isTransient (c.network.replyAt r 0) = false := by
        rcases last with h | h
        · omega
        · exact h
      rw [settled, if_neg (by simp)]
      exact ⟨first, attempt_repeats hr direct⟩
    | succ k =>
      rw [if_pos (before 0 (by omega))]
      have network : (pausedFor (client.attempt call c).2 pause).network =
          (c.network.send r).2 := by
        rw [attempt_of_direct hr direct]
        rfl
      have shift : ∀ i, (pausedFor (client.attempt call c).2 pause).network.replyAt r i =
          c.network.replyAt r (i + 1) := by
        intro i
        rw [network, Network.replyAt, Network.replyAt, Network.outcomeAt_succ]
      have direct' : (pausedFor (client.attempt call c).2 pause).network.Direct r.link := by
        rw [network]
        exact fun o ho => direct o (Network.script_send_subset c.network r ho)
      obtain ⟨reply, repeats⟩ := ih (k := k) direct' (pause * ((2 : Nat) : α)) (by omega)
        (fun i hi => by rw [shift]; exact before (i + 1) (by omega))
        (by
          rw [shift]
          rcases last with h | h
          · exact .inl (by omega)
          · exact .inr h)
        (by rw [attempt_of_direct hr direct', Network.replyAt, Network.outcomeAt_zero])
      exact ⟨reply.trans (shift k), repeats_again hr direct repeats⟩

/-! ## Numbered attempts -/

/-- Attempts a call once for each number. An attempt whose number is the last one of `most` is not
repeated; where the numbers run out before an attempt has settled the call, there is no reply. -/
def numbered (client : Client α) (call : Call) (most : Nat) (numbers : List Nat) (pause : α)
    (c : Connection α) : Option Reply × Connection α :=
  match numbers with
  | [] => (none, c)
  | number :: rest =>
    let (reply, c) := client.attempt call c
    if isTransient reply && decide (number + 1 < most) then
      client.numbered call most rest (pause * ((2 : Nat) : α)) (pausedFor c pause)
    else (some reply, c)

theorem numbered_cons (call : Call) (most number : Nat) (rest : List Nat) (pause : α)
    (c : Connection α) : client.numbered call most (number :: rest) pause c =
      if isTransient (client.attempt call c).1 && decide (number + 1 < most) then
        client.numbered call most rest (pause * ((2 : Nat) : α))
          (pausedFor (client.attempt call c).2 pause)
      else (some (client.attempt call c).1, (client.attempt call c).2) := rfl

/-- Counted from any number on, the attempts never run out of numbers. -/
theorem numbered_eq_attempts (client : Client α) (call : Call) (retries start : Nat) (pause : α)
    (c : Connection α) :
    client.numbered call (start + retries + 1) (List.range' start (retries + 1)) pause c =
      (some (client.attempts call retries pause c).1,
        (client.attempts call retries pause c).2) := by
  induction retries generalizing start pause c with
  | zero => simp [numbered, attempts_zero]
  | succ retries ih =>
    have later := ih (start + 1) (pause * ((2 : Nat) : α))
      (pausedFor (client.attempt call c).2 pause)
    rw [show start + 1 + retries + 1 = start + (retries + 1) + 1 by omega] at later
    rw [List.range'_succ, numbered_cons, attempts_succ]
    by_cases transient : isTransient (client.attempt call c).1 = true
    · rw [if_pos (by simp [transient]), if_pos transient, later]
    · rw [if_neg (by simp [transient]), if_neg transient]

/-! ## What a call comes to -/

/-- How often a call is attempted at most. -/
def mostAttempts (client : Client α) (call : Call) : Nat :=
  if call.retry then client.retries + 1 else 1

/-- The failure that a reply stands for if it looks transient. -/
def transientError : Reply → ApiError
  | .answered status _ => .status status
  | .timeout => .timeout
  | _ => .unreachable

theorem settle_of_transient {reply : Reply} (h : isTransient reply = true) (call : Call) :
    settle call reply = .error (transientError reply) := by
  cases reply with
  | answered status body =>
    have : status ∈ [500, 502, 503, 504, 524] := by simpa [isTransient] using h
    have : status < 200 ∨ 300 ≤ status := by
      simp only [List.mem_cons, List.not_mem_nil, or_false] at this
      omega
    rw [settle, if_pos this]
    rfl
  | timeout => rfl
  | unreachable => rfl
  | broken => exact absurd h (by simp [isTransient])

theorem run_eq (call : Call) (c : Connection α) : client.run call c =
    (settle call (client.attempts call (client.mostAttempts call - 1) client.backoffStart c).1,
      (client.attempts call (client.mostAttempts call - 1) client.backoffStart c).2) := by
  cases hretry : call.retry <;> simp [run, mostAttempts, hretry]

end Client

/-! ## Settings -/

open Schema

/-- Settings that were read bound the retries and the first pause. -/
theorem bounds_of_ofFields {fields : Fields} {s : Settings}
    (valid : Settings.ofFields fields = .valid s) :
    s.retries ≤ 5 ∧ ¬ Settings.thousandths 10000 < s.backoffStart ∧
      ¬ s.backoffStart < Settings.thousandths 100 := by
  obtain ⟨_, _, h₁, -, rfl⟩ := Checked.seq_eq_valid_iff.1 valid
  obtain ⟨_, _, h₂, -, rfl⟩ := Checked.seq_eq_valid_iff.1 h₁
  obtain ⟨_, _, h₃, -, rfl⟩ := Checked.seq_eq_valid_iff.1 h₂
  obtain ⟨_, _, h₄, -, rfl⟩ := Checked.seq_eq_valid_iff.1 h₃
  obtain ⟨_, _, h₅, -, rfl⟩ := Checked.seq_eq_valid_iff.1 h₄
  obtain ⟨_, _, h₆, -, rfl⟩ := Checked.seq_eq_valid_iff.1 h₅
  obtain ⟨_, backoff, h₇, hbackoff, rfl⟩ := Checked.seq_eq_valid_iff.1 h₆
  obtain ⟨_, retries, h₈, hretries, rfl⟩ := Checked.seq_eq_valid_iff.1 h₇
  obtain ⟨_, _, h₉, -, rfl⟩ := Checked.seq_eq_valid_iff.1 h₈
  obtain ⟨_, _, h₁₀, -, rfl⟩ := Checked.seq_eq_valid_iff.1 h₉
  obtain ⟨_, _, h₁₁, -, rfl⟩ := Checked.seq_eq_valid_iff.1 h₁₀
  obtain ⟨_, _, h₁₂, -, rfl⟩ := Checked.seq_eq_valid_iff.1 h₁₁
  obtain ⟨_, _, h₁₃, -, rfl⟩ := Checked.seq_eq_valid_iff.1 h₁₂
  obtain ⟨_, -, rfl⟩ := Checked.map_eq_valid_iff.1 h₁₃
  refine ⟨of_optional (p := (· ≤ 5)) hretries (by decide) fun d n hn => ?_,
    of_optional (p := fun x => ¬ Settings.thousandths 10000 < x ∧ ¬ x < Settings.thousandths 100)
      hbackoff (by decide +kernel) fun d x hx => ?_⟩
  · obtain ⟨m, hm, rfl⟩ := Checked.map_eq_valid_iff.1 hn
    have := (le_of_integerWithin hm).2
    omega
  · obtain ⟨y, -, hy⟩ := Checked.andThen_eq_valid_iff.1 hx
    by_cases hlarge : Settings.thousandths 10000 < y
    · rw [if_pos hlarge] at hy
      cases hy
    · rw [if_neg hlarge] at hy
      by_cases hsmall : y < Settings.thousandths 100
      · rw [if_pos hsmall] at hy
        cases hy
      · rw [if_neg hsmall] at hy
        cases hy
        exact ⟨hlarge, hsmall⟩

/-- The pauses of a client are its first pause times the powers of two, without rounding. -/
theorem pauses_exact {fields : Fields} {s : Settings} {q : ℚ}
    (valid : Settings.ofFields fields = .valid s) (canonical : s.backoffStart.Canonical)
    (hq : s.backoffStart.toRat? = some q) {k : Nat} (hk : k ≤ 5) :
    (doublings s.backoffStart k).map Binary64.toRat? =
      (List.range k).map fun i => some (2 ^ i * q) := by
  obtain ⟨-, hhigh, hlow⟩ := bounds_of_ofFields valid
  have least : (Settings.thousandths 100).toRat? = some (7205759403792794 / 2 ^ 56) := by
    decide +kernel
  have greatest : (Settings.thousandths 10000).toRat? = some 10 := by decide +kernel
  rw [Binary64.lt_iff_of_toRat? hq least, not_lt] at hlow
  rw [Binary64.lt_iff_of_toRat? greatest hq, not_lt] at hhigh
  refine Binary64.map_toRat?_doublings_of_bounds canonical hq ?_ ?_
  · calc (2 : ℚ) ^ (-1022 : Int) ≤ 2 ^ (-4 : Int) := zpow_le_zpow_right₀ one_le_two (by norm_num)
      _ ≤ 7205759403792794 / 2 ^ 56 := by norm_num
      _ ≤ q := hlow
  · calc q * 2 ^ k ≤ 10 * 2 ^ 5 := by
          gcongr
          exact one_le_two
      _ ≤ 2 ^ (9 : Int) := by norm_num
      _ ≤ 2 ^ (1024 : Int) := zpow_le_zpow_right₀ one_le_two (by norm_num)

open Client

/-- Settings for a server on this machine, of which only the token, the address and the limits are
given. -/
def localSettings : Settings where
  token := "tok"
  base := ⟨false, "", "", .v6 [0, 0, 0, 0, 0, 0, 0, 1], some 3456, "/api/v1", none, none⟩
  logLevel := .info
  configFile := none
  testsConnectivity := false
  limits := ⟨240, 12, by decide, by decide⟩
  retries := 2
  backoffStart := Settings.thousandths 250
  userAgent := Settings.defaultUserAgent
  connectTimeout := Settings.thousandths 5000
  readTimeout := Settings.thousandths 30000
  fallbackPageSize := 50
  fallbackMaxPages := 20
  savedFiltersPath := none

theorem ofFields_localSettings : Settings.ofFields [(Settings.tokenKey, .text "tok"),
    (Settings.baseKey, .text "http://[::1]:3456/api/v1"), (Settings.rpmKey, .int 240),
    (Settings.burstKey, .int 12)] = .valid localSettings :=
  Schema.Checked.value?_eq_some_iff.1 (by decide +kernel)

end TaskSieve.Remote
