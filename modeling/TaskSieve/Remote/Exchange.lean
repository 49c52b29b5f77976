import TaskSieve.Remote.Body
import TaskSieve.Task.Page
import TaskSieve.Web.Link

set_option autoImplicit false

/-! # Requests and answers

A request goes to a server and is answered, redirected, or lost. The network is a value: what it
will do with the next requests, and the tasks that the server holds. An exchange follows redirects
until an answer is final, and keeps every request that was sent on the way. -/

namespace TaskSieve.Remote

open Web (Link)

/-- A request as it is sent. -/
structure Request where
  method : String
  link : Link
  parameters : List (String × String)
  authorization : Option String
  contentType : String
  userAgent : String
  body : Option Datum
deriving Repr

/-- What becomes of a request. -/
inductive Outcome where
  | answered (status : Nat) (location : Option String) (body : Body)
  /-- No answer came in time. -/
  | timeout
  /-- The connection failed. -/
  | unreachable
  /-- Anything else went wrong. -/
  | broken
deriving Repr

/-- The outcome when an answer comes. An answer whose headers are not ASCII or whose body cannot be
unpacked is of no use. -/
def Outcome.ofAnswer (status : Nat) (headers : Headers) (body : Body) : Outcome :=
  match if headers.isPlain then body.unpacked? (headers.list "content-encoding") else none with
  | some body => .answered status (headers.get? "location") body
  | none => .broken

/-- What becomes of a request after redirects. -/
inductive Reply where
  | answered (status : Nat) (body : Body)
  | timeout
  | unreachable
  | broken
deriving Repr

/-- The network: outcomes of the next requests, and the tasks of the server that answers all
requests after those, if there is one. -/
structure Network where
  script : List Outcome := []
  backend : Option (List Datum) := none

namespace Network

/-- An integer parameter of a request, or its default if the request does not have it. -/
def parameter? (request : Request) (name : String) (default : Int) : Option Int :=
  match request.parameters.find? (·.1 == name) with
  | some (_, value) => Decimal.integerOf? value.toList
  | none => some default

/-- The page of the server's tasks that a request asks for; a page without a number breaks the
request. -/
def page (tasks : List Datum) (request : Request) : Outcome :=
  match parameter? request "page" 1, parameter? request "per_page" 50 with
  | some page, some size =>
    .answered 200 none (.json (.list (Page.window ((page - 1) * size) (page * size) tasks)))
  | _, _ => .broken

/-- What becomes of a request, and the network after it. -/
def send (n : Network) (request : Request) : Outcome × Network :=
  match n.script with
  | outcome :: rest => (outcome, { n with script := rest })
  | [] =>
    match n.backend with
    | some tasks => (page tasks request, n)
    | none => (.unreachable, n)

end Network

/-! ## Redirects -/

/-- Whether an answer with this status may send the request elsewhere. -/
def redirects (status : Nat) : Bool := [301, 302, 303, 307, 308].contains status

/-- The method with which a redirected request goes on. -/
def redirectedMethod (status : Nat) (method : String) : String :=
  if (status = 302 ∨ status = 303) ∧ method ≠ "HEAD" then "GET"
  else if status = 301 ∧ method = "POST" then "GET"
  else method

/-- The request that follows a redirect. Credentials are not shown to another server, and a request
that has become a plain reading loses its body. -/
def Request.redirected (r : Request) (status : Nat) (link : Link) : Request :=
  let method := redirectedMethod status r.method
  let keeps := r.link.sameOrigin link || r.link.isSecuring link
  { r with
    method, link
    parameters := link.parameters
    authorization := if keeps then r.authorization else none
    body := if method ≠ r.method ∧ method = "GET" then none else r.body }

/-- What an exchange came to: the final reply, every request sent, and the network after it. -/
structure Exchange where
  reply : Reply
  sent : List Request
  network : Network

/-- Sends a request and follows at most `left` redirects. One redirect more breaks the exchange, and
so does an answer from nowhere: to a request that a redirect has sent to a link without a scheme. -/
def exchange (left : Nat) (request : Request) (network : Network) : Exchange :=
  match network.send request with
  | (.timeout, network) => ⟨.timeout, [request], network⟩
  | (.unreachable, network) => ⟨.unreachable, [request], network⟩
  | (.broken, network) => ⟨.broken, [request], network⟩
  | (.answered status location body, network) =>
    if request.link.scheme = "" then ⟨.broken, [request], network⟩
    else match if redirects status then location else none with
    | none => ⟨.answered status body, [request], network⟩
    | some place =>
      match left, request.link.follow? place with
      | left + 1, some link =>
        let rest := exchange left (request.redirected status link) network
        { rest with sent := request :: rest.sent }
      | _, _ => ⟨.broken, [request], network⟩

/-- The most redirects that are followed. -/
def redirectLimit : Nat := 20

end TaskSieve.Remote
