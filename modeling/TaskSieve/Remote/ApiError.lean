import TaskSieve.Number.Layout

set_option autoImplicit false

/-! # Failures of the task server

Why a call to the task server gave no result. Messages name statuses and endpoints, never the
token. -/

namespace TaskSieve.Remote

/-- Why the body of an answer could not be used. -/
inductive BodyFault where
  /-- It is not the value that an answer with this status should hold. -/
  | form (status : Nat)
  /-- It is not a list of tasks. -/
  | notList
  /-- One of so many items is not a task. -/
  | badTask (count : Nat)
deriving DecidableEq, Repr

/-- The text that names a fault. -/
def BodyFault.detail : BodyFault → String
  | form status => "status=" ++ toString status
  | notList => "reason=not a list"
  | badTask count => "task_count=" ++ toString count

/-- Why a call failed. -/
inductive ApiError where
  /-- The server answered with a status that is no success. -/
  | status (code : Nat)
  | timeout
  | unreachable
  /-- The request could not be sent, or something else went wrong. -/
  | unexpected (method endpoint : String)
  | undecodable (endpoint : String) (fault : BodyFault)
  /-- Projects have positive numbers. -/
  | badProject (id : Int)
deriving DecidableEq, Repr

/-- Kinds of failures, which callers treat differently. -/
inductive FailureKind where
  | badRequest
  | authentication
  | forbidden
  | notFound
  | refusedEntity
  | rateLimit
  | unavailable
  | timeout
  | server
  | network
  | other
deriving DecidableEq, Repr

namespace ApiError

/-- Statuses by which a gateway says that the server did not answer in time. -/
def isGatewayTimeout (status : Nat) : Bool := status == 504 || status == 524

/-- Statuses that the server is to blame for. -/
def isServerFault (status : Nat) : Bool := 500 ≤ status && status < 600

/-- The kind of failure that a status stands for. -/
def kindOfStatus (status : Nat) : FailureKind :=
  match status with
  | 400 => .badRequest
  | 401 => .authentication
  | 403 => .forbidden
  | 404 => .notFound
  | 422 => .refusedEntity
  | 429 => .rateLimit
  | 503 => .unavailable
  | _ =>
    if isGatewayTimeout status then .timeout
    else if isServerFault status then .server
    else .other

/-- The kind of a failure. -/
def kind : ApiError → FailureKind
  | status code => kindOfStatus code
  | timeout => .timeout
  | unreachable => .network
  | unexpected _ _ => .other
  | undecodable _ _ => .other
  | badProject _ => .badRequest

/-- The message for a status. -/
def statusMessage (status : Nat) : String :=
  match kindOfStatus status with
  | .badRequest => "Bad request - invalid parameters"
  | .authentication => "Authentication failed"
  | .forbidden => "Access to resource forbidden"
  | .notFound => "Resource not found"
  | .refusedEntity => "Entity validation failed"
  | .rateLimit => "Rate limit exceeded"
  | .unavailable => "Service temporarily unavailable"
  | .timeout => "Request timeout"
  | .server => "Vikunja server error " ++ toString status
  | .network => "Network error occurred"
  | .other => "Vikunja API error " ++ toString status

/-- The message of a failure. -/
def message : ApiError → String
  | status code => statusMessage code
  | timeout => "Request timeout"
  | unreachable => "Network error occurred"
  | unexpected method endpoint =>
    "Unexpected API error (method=" ++ method ++ ", endpoint=" ++ endpoint ++ ", status_unknown)"
  | undecodable endpoint fault =>
    "Failed to parse response (endpoint=" ++ endpoint ++ ", " ++ fault.detail ++ ")"
  | badProject id => "Invalid project id: " ++ integerText id

/-- The status that a failure reports, if it reports one. -/
def statusCode? : ApiError → Option Nat
  | status code => some code
  | badProject _ => some 400
  | _ => none

end ApiError

end TaskSieve.Remote
