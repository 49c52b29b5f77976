import TaskSieve.Listing.Run
import TaskSieve.Service.Tool

set_option autoImplicit false

/-! # The service

The service answers calls of its tools, one after the other. It has one session: the saved filters
that belong to its server and token. Between calls it keeps the filters, where they are stored, and
the connection to the task server. -/

namespace TaskSieve

open Remote Listing

/-- A running service. -/
structure Service where
  client : Client Binary64
  fallback : Fallback
  session : String
  sessions : Sessions
  connection : Connection Binary64

/-- What a call is answered with. -/
inductive ToolAnswer where
  | pong
  | filters (answer : Except ActionError Reply)
  | listing (answer : Except ListingError Listing.Result)
  /-- The call was not well formed. -/
  | rejected

namespace Service

/-- A service with these settings. Its filters are loaded before anything is answered. -/
def start (settings : Settings) (shelf : Shelf) (network : Network) (ticket : Ticket) :
    Except FileError Service := do
  let client := Client.ofSettings settings
  let session := sessionId settings.base.text settings.token
  let (_, sessions) ← Sessions.enter { shelf } session ticket
  .ok {
    client, session, sessions
    fallback := ⟨settings.fallbackPageSize, settings.fallbackMaxPages⟩
    connection := client.connect network 0 }

/-- The saved filters. -/
def store (s : Service) : Store := (s.sessions.store? s.session).getD []

/-- Answers a well-formed call. -/
def answer (s : Service) (ticket : Ticket) : ToolCall → ToolAnswer × Service
  | .ping => (.pong, s)
  | .filters action parameters =>
    let run := FiltersRun.ofCall s.sessions s.session s.store ticket action.name parameters
    (.filters run.answer, { s with sessions := run.sessions })
  | .listTasks arguments =>
    let run := ListingRun.ofCall s.client s.fallback ticket.time s.store arguments s.connection
    (.listing run.answer, { s with connection := run.connection })

/-- Answers a call. -/
def call (s : Service) (ticket : Ticket) (tool : String) (arguments : Fields) :
    ToolAnswer × Service :=
  match ToolCall.of? tool arguments with
  | some call => s.answer ticket call
  | none => (.rejected, s)

end Service

/-- An answer as a value, written out; a rejected call has none. -/
def ToolAnswer.toDatum? : ToolAnswer → Option Datum
  | .pong => some (.text "pong")
  | .filters answer => some (Datum.record (actionAnswer answer)).written
  | .listing answer => some (Datum.record (listingAnswer answer)).written
  | .rejected => none

end TaskSieve
