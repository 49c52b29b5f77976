import TaskSieve.Answer
import TaskSieve.Filter.Accept
import TaskSieve.Listing.Query
import TaskSieve.Remote.ApiError
import TaskSieve.Task.Order

set_option autoImplicit false

/-! # Listings

What a listing answers: its tasks, where its filter came from, and who applied it. The server is
asked first; if it fails, a broader collection is fetched and the filter is applied here. -/

namespace TaskSieve.Listing

open TaskSieve.Filter Remote

/-- Who selected the tasks of a listing. -/
inductive Selection where
  /-- Nobody: there was no filter. -/
  | unfiltered
  /-- The server applied the filter. -/
  | server
  /-- The server failed with this message, and the filter was applied to so many tasks fetched. -/
  | fallback (serverError : String) (fetched : Nat)
deriving DecidableEq, Repr

/-- The answer to a listing. -/
structure Result where
  query : Query
  source : FilterSource
  warnings : List String
  selection : Selection
  tasks : List Task

namespace Selection

/-- Whether the server's filter selected the tasks. -/
def used : Selection → Bool
  | server => true
  | _ => false

/-- Whether the server was asked to filter. -/
def attempted : Selection → Bool
  | unfiltered => false
  | _ => true

/-- Why the server did not filter, if it failed to. -/
def serverError? : Selection → Option String
  | fallback e _ => some e
  | _ => none

/-- How many tasks were fetched to be filtered here. -/
def fetched? : Selection → Option Nat
  | fallback _ n => some n
  | _ => none

end Selection

namespace Result

/-- A line that says how a listing was produced. -/
def summary (r : Result) : String :=
  let noun := if r.tasks.length = 1 then " task" else " tasks"
  let found := "Found " ++ toString r.tasks.length ++ noun
  match r.selection with
  | .unfiltered => found
  | .server => found ++ " (filtered server-side)"
  | .fallback _ _ => found ++ " (filtered client-side - server-side fallback)"

/-- How a listing was produced, as a record. -/
def metadata (r : Result) : Datum :=
  .record [("serverSideFilteringUsed", .bool r.selection.used),
    ("serverSideFilteringAttempted", .bool r.selection.attempted),
    ("count", .int r.tasks.length),
    ("filter", .ofOption .text r.source.text?),
    ("filterSource", .text r.source.name),
    ("filterId", .ofOption .text r.source.id?),
    ("page", .int r.query.page),
    ("perPage", .int r.query.perPage),
    ("sort", .ofOption .text r.query.sort),
    ("warnings", .texts r.warnings),
    ("serverSideError", .ofOption .text r.selection.serverError?),
    ("fetchedCount", .ofOption (fun n => .int (Int.ofNat n)) r.selection.fetched?)]

/-- The fields of an answer. -/
def toFields (r : Result) : Fields :=
  [("tasks", .list (r.tasks.map Task.toResponse)), ("metadata", r.metadata)]

end Result

/-! ## Failures -/

/-- Why a listing failed. -/
inductive ListingError where
  | badArguments (issues : List Schema.Issue)
  | unknownFilter (id : String)
  | badSort (error : SortError)
  | refused (refusal : Refusal)
  /-- The server failed, and so did the fetch that was to replace it. -/
  | unfetched (serverError : String)
  /-- The server failed, and there was no filter that could be applied here. -/
  | api (error : ApiError)
  /-- Two tasks have sort values that cannot be compared. -/
  | unordered
deriving DecidableEq, Repr

namespace ListingError

/-- The kind of failure that a failure of the server is reported as, and the words before it. -/
def apiReport : FailureKind → String × String
  | .authentication => ("authentication_error", "Authentication failed: ")
  | .rateLimit => ("rate_limit_error", "Rate limit exceeded: ")
  | .timeout => ("timeout_error", "Request timeout: ")
  | .server => ("server_error", "Server error: ")
  | _ => ("api_error", "API error: ")

/-- The kind of an error in answers. -/
def kind : ListingError → String
  | badArguments _ => "validation_error"
  | unknownFilter _ => "not_found_error"
  | badSort _ => "validation_error"
  | refused (.unreadable _) => "parse_error"
  | refused (.rejected _) | refused (.overlong _) => "validation_error"
  | refused (.fault _) => "unexpected_error"
  | unfetched _ => "orchestration_error"
  | api e => (apiReport e.kind).1
  | unordered => "unexpected_error"

/-- The error in words. -/
def message : ListingError → String
  | badArguments _ => "Invalid listing parameters"
  | unknownFilter id => StoreError.message (.notFound id)
  | badSort e => e.message
  | refused (.unreadable e) => "Invalid filter syntax: " ++ e.message
  | refused (.rejected r) => "Invalid filter: " ++ "; ".intercalate r.errors
  | refused (.overlong o) => o.message
  | refused (.fault _) => "Unexpected error listing tasks"
  | unfetched serverError =>
    "Unable to fetch tasks for client-side filtering (server-side attempt: " ++ serverError ++ ")"
  | api e => (apiReport e.kind).2 ++ e.message
  | unordered => "Unexpected error listing tasks"

/-- The parts of an error that are answered beside its kind and its message. -/
def details : ListingError → Fields
  | refused (.unreadable e) => [("details", .record e.toFields)]
  | refused (.rejected r) => [("errors", .texts r.errors), ("warnings", .texts r.warnings)]
  | _ => []

end ListingError

/-- The answer to a listing as a record. -/
def listingAnswer : Except ListingError Result → Fields
  | .ok r => Answer.success r.summary r.toFields
  | .error e => Answer.failure e.kind e.message e.details

end TaskSieve.Listing
