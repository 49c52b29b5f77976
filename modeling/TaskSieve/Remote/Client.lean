import TaskSieve.RateLimit.Bucket
import TaskSieve.Remote.ApiError
import TaskSieve.Remote.Exchange
import TaskSieve.Settings.Basic
import TaskSieve.Text.Upper

set_option autoImplicit false

/-! # The client of the task server

A call is sent as one request, and again after a pause while its failure looks transient and
retries are left; each pause is twice as long as the one before. Every attempt takes a token from
the rate limiter first. A connection is what changes meanwhile: the network, the limiter, the clock
and a log of everything that was sent and slept. -/

namespace TaskSieve.Remote

open Web (Link)

/-- What a client knows: where the server is, how to present itself, and when to give up. -/
structure Client (α : Type) where
  /-- The server's address without a slash at its end. -/
  base : String
  token : String
  userAgent : String
  limits : Limits
  retries : Nat
  backoffStart : α

/-- The client that settings describe. -/
def Client.ofSettings (s : Settings) : Client Binary64 where
  base := String.ofList ((s.base.text.toList.reverse.dropWhile (· == '/')).reverse)
  token := s.token
  userAgent := s.userAgent
  limits := s.limits
  retries := s.retries
  backoffStart := s.backoffStart

/-- Something that took time or left the program. -/
inductive Event (α : Type) where
  /-- The limiter slept for a token. -/
  | throttled (seconds : α)
  /-- The client paused before a retry. -/
  | pausedFor (seconds : α)
  | sent (request : Request)

namespace Event

variable {α : Type}

/-- The request that was sent, if this is one. -/
def request? : Event α → Option Request
  | sent r => some r
  | _ => none

/-- The seconds slept, if this is a sleep. -/
def slept? : Event α → Option α
  | throttled s => some s
  | pausedFor s => some s
  | sent _ => none

end Event

/-- The network, the limiter, the clock, and what has happened so far, first thing first. -/
structure Connection (α : Type) where
  network : Network
  bucket : Bucket α
  clock : α
  log : List (Event α)

/-- A call: what is asked of which endpoint. -/
structure Call where
  method : String
  endpoint : String
  body : Option Datum
  /-- Parameters of the query; without them the endpoint may hold a query itself. -/
  parameters : Option (List (String × String))
  /-- Whether transient failures are tried again. -/
  retry : Bool

mutual

/-- Whether a value has a written form: every number in it is finite. -/
def isSendable : Datum → Bool
  | .num x => x.isFinite
  | .list items => areSendable items
  | .record fields => areSendableFields fields
  | _ => true

/-- Whether every item of a list has a written form. -/
def areSendable : List Datum → Bool
  | [] => true
  | d :: rest => isSendable d && areSendable rest

/-- Whether every field of a record has a written form. -/
def areSendableFields : List (String × Datum) → Bool
  | [] => true
  | (_, d) :: rest => isSendable d && areSendableFields rest

end

/-- Whether a text may stand in a header. -/
def isHeaderText (s : String) : Bool := s.toList.all fun c => c.toNat < 128

namespace Client

variable {α : Type}

/-- The request for a call, unless it cannot be written: headers are ASCII, links readable and
numbers finite. -/
def request? (client : Client α) (call : Call) : Option Request :=
  let url := client.base ++ "/" ++ String.ofList (call.endpoint.toList.dropWhile (· == '/'))
  match Link.ofText? url.toList with
  | none => none
  | some link =>
    if isHeaderText client.token && isHeaderText client.userAgent && call.body.all isSendable then
      some { method := Text.upperString call.method
             link
             parameters := call.parameters.getD link.parameters
             authorization := link.credentials?.getD ("Bearer " ++ client.token)
             contentType := "application/json"
             userAgent := client.userAgent
             body := call.body }
    else none

/-- Whether a reply is worth another attempt. -/
def isTransient : Reply → Bool
  | .answered status _ => [500, 502, 503, 504, 524].contains status
  | .timeout => true
  | .unreachable => true
  | .broken => false

/-- The result of a call from its last reply. -/
def settle (call : Call) : Reply → Except ApiError Datum
  | .timeout => .error .timeout
  | .unreachable => .error .unreachable
  | .broken => .error (.unexpected (Text.upperString call.method) call.endpoint)
  | .answered status body =>
    if status < 200 ∨ 300 ≤ status then .error (.status status)
    else if status = 204 then .ok (.record [])
    else match body.decode? with
      | some d => .ok d
      | none => .error (.undecodable call.endpoint (.form status))

variable [Measure α]

/-- A connection on which nothing has happened yet. -/
def connect (client : Client α) (network : Network) (clock : α) : Connection α :=
  ⟨network, .full client.limits clock, clock, []⟩

/-- One attempt: takes a token, then sends the request. -/
def attempt (client : Client α) (call : Call) (c : Connection α) : Reply × Connection α :=
  let served := c.bucket.take c.clock
  let c := { c with
    bucket := served.bucket
    clock := served.clock
    log := c.log ++ served.slept.map .throttled }
  match client.request? call with
  | none => (.broken, c)
  | some request =>
    let done := exchange redirectLimit request c.network
    (done.reply, { c with network := done.network, log := c.log ++ done.sent.map .sent })

/-- Attempts a call until its reply is not transient or no retries are left; `pause` comes before
the next retry. -/
def attempts (client : Client α) (call : Call) (retries : Nat) (pause : α) (c : Connection α) :
    Reply × Connection α :=
  match retries, client.attempt call c with
  | 0, done => done
  | retries + 1, (reply, c) =>
    if isTransient reply then
      client.attempts call retries (pause * ((2 : Nat) : α))
        { c with clock := c.clock + pause, log := c.log ++ [.pausedFor pause] }
    else (reply, c)

/-- Makes a call. -/
def run (client : Client α) (call : Call) (c : Connection α) :
    Except ApiError Datum × Connection α :=
  let retries := if call.retry then client.retries else 0
  let (reply, c) := client.attempts call retries client.backoffStart c
  (settle call reply, c)

/-! ## Describing a client -/

/-- The description of a client, which does not show the token. -/
def describe (client : Client α) : String :=
  "VikunjaClient(base_url=" ++ client.base ++ ", token=" ++ Settings.redactedToken ++ ")"

/-- The description with its texts in quotes. -/
def describeQuoted (client : Client α) : String :=
  "VikunjaClient(base_url='" ++ client.base ++ "', token='" ++ Settings.redactedToken ++ "')"

end Client

end TaskSieve.Remote
