import TaskSieve.Number.Decimal
import TaskSieve.Number.Layout
import TaskSieve.Text.Base64
import TaskSieve.Web.Address
import TaskSieve.Web.Reference

set_option autoImplicit false

/-! # Links

Where a request goes. A link is built from the server's address and an endpoint, or from the place
that a redirecting answer names, which may be given relative to the link that was asked. A link is
read more literally than an address: hosts and sockets stay as they are written, and only what
cannot be sent is refused. -/

namespace TaskSieve.Web

open Text (splitAtAll cutAt cutAtLast)

/-- A place on the web, ready to be asked. All parts but the host of eight groups and the socket are
percent encoded; a part that is missing is empty. -/
structure Link where
  scheme : String
  /-- User and password, separated by a colon. -/
  login : String
  /-- The host; one of eight groups stands without its brackets. -/
  host : String
  /-- The number of the socket, unless it is the one that the scheme usually has. -/
  socket : Option Int
  path : String
  query : Option String
  fragment : Option String
deriving DecidableEq, Repr

namespace Link

/-! ## Characters -/

/-- The most characters of a link. -/
def longest : Nat := 65536

/-- Whether a text may be read as a link: it is not too long and has no control characters. -/
def isReadable (cs : List Char) : Bool :=
  cs.length ≤ longest && cs.all fun c => 0x20 ≤ c.toNat && c.toNat != 0x7F

/-- Characters that a login keeps. -/
def inLogin (c : Char) : Bool := Address.inUser c || c == ':'

/-- Characters that a host keeps. -/
def inHost (c : Char) : Bool :=
  c.isAlphanum || "-._~!$&'()*+,;=\"\x60\x7b\x7d%|\\".toList.contains c

/-- Characters that a query keeps. -/
def inQuery (c : Char) : Bool := Address.inQuery c || c == '\''

/-- A text whose characters outside a set are percent encoded. -/
def encoded (keep : Char → Bool) (cs : List Char) : String :=
  String.ofList (Percent.encode keep cs)

/-- The text that a percent-encoded text stands for. -/
def decoded (s : String) : String := String.ofList (Text.ofBytes (Percent.decode s.toList))

/-! ## Hosts and sockets -/

/-- Whether a text looks like four bytes: four runs of figures with one character, of any kind,
between two of them. A run of figures alone has such places if it is long enough. -/
def looksLikeBytes (cs : List Char) : Bool :=
  let runs := splitAtAll (fun c => !c.isDigit) cs
  let places := runs.foldl (fun n run => n + (run.length - 1) / 2) runs.length
  runs.all (fun run => !run.isEmpty) && runs.length ≤ 4 && 4 ≤ places

/-- Whether a text writes four bytes in decimal. -/
def isFourBytes (cs : List Char) : Bool :=
  match (splitAtAll (· == '.') cs).mapM Host.decimalByte? with
  | some bytes => bytes.length == 4
  | none => false

/-- Whether a text writes eight groups, and perhaps the zone that they hold in behind a percent
sign. -/
def isEightGroups (cs : List Char) : Bool :=
  match cutAt (· == '%') cs with
  | (groups, none) => (Host.v6? groups).isSome
  | (groups, some zone) =>
    (Host.v6? groups).isSome && !zone.isEmpty && !zone.contains '%'

/-- Reads a host; no text at all is no host. Names are ASCII. -/
def host? (cs : List Char) : Option String :=
  if looksLikeBytes cs then if isFourBytes cs then some (String.ofList cs) else none
  else match cs with
    | '[' :: rest =>
      if rest.getLast? = some ']' then
        if isEightGroups rest.dropLast then some (String.ofList rest.dropLast) else none
      else some (encoded inHost (cs.map Char.toLower))
    | cs =>
      if cs.all fun c => c.toNat < 128 then some (encoded inHost (cs.map Char.toLower)) else none

/-- Host and socket apart: the socket follows the last bracket, or else the first colon. -/
def hostAndSocket (place : List Char) : List Char × List Char :=
  match place, cutAtLast (· == ']') place with
  | '[' :: _, (some host, rest) =>
    (host ++ [']'], match rest with
      | ':' :: socket => socket
      | socket => socket)
  | _, _ =>
    let (host, socket) := cutAt (· == ':') place
    (host, socket.getD [])

/-- The socket that a scheme usually has. -/
def usualSocket? (scheme : String) : Option Int :=
  match scheme with
  | "ftp" => some 21
  | "http" => some 80
  | "https" => some 443
  | "ws" => some 80
  | "wss" => some 443
  | _ => none

/-- The number of a socket, which may be left out. -/
def socket? (cs : List Char) : Option (Option Int) :=
  if cs.isEmpty then some none else (Decimal.integerOf? cs).map some

/-! ## Paths -/

/-- Resolves the segments `.` and `..`; `kept` holds the segments before, last first. The first
segment stays if it is empty. -/
def resolveDots (kept : List (List Char)) : List (List Char) → List (List Char)
  | [] => kept.reverse
  | ['.'] :: rest => resolveDots kept rest
  | ['.', '.'] :: rest => resolveDots (if kept = [[]] then kept else kept.drop 1) rest
  | segment :: rest => resolveDots (segment :: kept) rest

/-- The path without segments that stand for another level. -/
def resolvedPath (cs : List Char) : List Char :=
  ['/'].intercalate (resolveDots [] (splitAtAll (· == '/') cs))

/-- Whether a path may follow what stands before it: after an authority it starts with a slash, and
a path that stands alone must not look as if it followed something. -/
def isPlaced (schemed placed : Bool) (path : List Char) : Bool :=
  match path with
  | '/' :: '/' :: _ => schemed || placed
  | '/' :: _ => true
  | ':' :: _ => schemed && !placed
  | [] => true
  | _ => !placed

/-! ## Reading -/

/-- The link that a reference makes, if every part can be sent. -/
def ofReference? (r : Reference) : Option Link :=
  let (login, place) := cutAtLast (· == '@') r.authority
  let login := login.getD []
  let (host, socket) := hostAndSocket place
  match host? host, socket? socket with
  | some host, some number =>
    let socket := number.filter fun n => some n != usualSocket? (String.ofList r.scheme)
    let schemed := !r.scheme.isEmpty
    let placed := !login.isEmpty || host != "" || socket.isSome
    if isPlaced schemed placed r.path then some {
      scheme := String.ofList (r.scheme.map Char.toLower)
      login := encoded inLogin login
      host, socket
      path := encoded Address.inPath (if schemed || placed then resolvedPath r.path else r.path)
      query := r.query.map (encoded inQuery)
      fragment := r.fragment.map (encoded Address.inFragment) }
    else none
  | _, _ => none

/-- Reads a link. -/
def ofText? (cs : List Char) : Option Link :=
  if isReadable cs then ofReference? (Reference.ofText cs) else none

/-- Reads a link from parts, each of which has to be readable. -/
def ofParts? (r : Reference) : Option Link :=
  let parts := [r.authority, r.path] ++ r.query.toList ++ r.fragment.toList
  if parts.all isReadable then ofReference? r else none

/-! ## Writing -/

/-- Host and socket. -/
def place (l : Link) : String :=
  let host := if l.host.toList.contains ':' then "[" ++ l.host ++ "]" else l.host
  match l.socket with
  | some n => host ++ ":" ++ integerText n
  | none => host

/-- The parts of a link. -/
def reference (l : Link) : Reference where
  scheme := l.scheme.toList
  authority := (if l.login = "" then l.place else l.login ++ "@" ++ l.place).toList
  path := l.path.toList
  query := l.query.map String.toList
  fragment := l.fragment.map String.toList

/-- The link in plain text, as far as it may be shown: without login, query and fragment. -/
def shown (l : Link) : String :=
  l.scheme ++ "://" ++ l.place ++ decoded (if l.path = "" then "/" else l.path)

/-! ## Following -/

/-- The link at the host of another one, if it names a scheme but no host. -/
def placedAt? (l other : Link) : Option Link :=
  if l.scheme ≠ "" ∧ l.host = "" then ofParts? { l with host := other.host }.reference
  else some l

/-- The link joined to another one, unless it names scheme and host. -/
def joinedTo? (l other : Link) : Option Link :=
  if l.scheme = "" ∨ l.host = "" then
    let base := Reference.ofText other.reference.text
    ofText? (base.join (Reference.ofText l.reference.text)).text
  else some l

/-- The link with the fragment of another one, unless it has one or the other has none. -/
def withFragmentOf? (l other : Link) : Option Link :=
  let fragment := decoded (other.fragment.getD "")
  if fragment ≠ "" ∧ l.fragment.getD "" = "" then
    ofParts? { l.reference with fragment := some fragment.toList }
  else some l

/-- Whether the name of the host can be shown. -/
def isShowable (l : Link) : Bool := Name.canBeShown l.host.toList

/-- The link to which a text leads that is given relative to a link. Hosts are compared as they are
shown, so both must be showable. -/
def follow? (l : Link) (s : String) : Option Link := do
  let next ← (← (← (← ofText? s.toList).placedAt? l).joinedTo? l).withFragmentOf? l
  if l.isShowable && next.isShowable then some next else none

/-! ## Parts -/

/-- Reads a name or a value of a parameter: a plus sign is a space. -/
def plain (cs : List Char) : String :=
  String.ofList (Text.ofBytes (Percent.decode (cs.map fun c => if c = '+' then ' ' else c)))

/-- The parameters that the query of a link holds. Those of one name stand together, where the first
of them stood. -/
def parameters (l : Link) : List (String × String) :=
  let parts := splitAtAll (· == '&') (l.query.getD "").toList
  let all := (parts.filter fun p => !p.isEmpty).map fun p =>
    let (name, value) := cutAt (· == '=') p
    (plain name, plain (value.getD []))
  (all.map (·.1)).eraseDups.flatMap fun name => all.filter (·.1 == name)

/-- The credentials that a link itself carries, as a request presents them. -/
def credentials? (l : Link) : Option String :=
  let (user, password) := cutAt (· == ':') l.login.toList
  let password := password.getD []
  if user.isEmpty && password.isEmpty then none
  else
    let plain := Text.ofBytes (Percent.decode user) ++ ':' :: Text.ofBytes (Percent.decode password)
    some ("Basic " ++ String.ofList (Text.base64 (Text.toBytes plain)))

/-- The number of the socket that a link leads to, if it is known. -/
def socketNumber? (l : Link) : Option Int :=
  l.socket.or (if l.scheme = "http" ∨ l.scheme = "https" then usualSocket? l.scheme else none)

/-- Whether two links lead to the same server. -/
def sameOrigin (a b : Link) : Bool :=
  a.scheme == b.scheme && a.host == b.host && a.socketNumber? == b.socketNumber?

/-- Whether the second link is the first one, secured, both at the usual sockets. -/
def isSecuring (a b : Link) : Bool :=
  a.scheme == "http" && b.scheme == "https" && a.host == b.host &&
    a.socketNumber? == some 80 && b.socketNumber? == some 443

end Link

end TaskSieve.Web
