import TaskSieve.Text.Blank
import TaskSieve.Web.Host
import TaskSieve.Web.Reference

set_option autoImplicit false

/-! # Web addresses

The address of a service on the web: scheme, host, socket, path and query. Reading is forgiving
about white space, letter case, slashes and characters that should have been percent encoded; the
written form is canonical. -/

namespace TaskSieve.Web

/-- Why a text is no web address. -/
inductive AddressError where
  /-- It is no address at all. -/
  | form
  /-- It is an address, but not one of the web. -/
  | scheme
deriving DecidableEq, Repr

/-- A web address. User, password, path, query and fragment are kept percent encoded. -/
structure Address where
  secure : Bool
  user : String
  password : String
  host : Host
  /-- The number of the socket on the host, unless it is the usual one. -/
  socket : Option Nat
  /-- The path, which starts with a slash. -/
  path : String
  query : Option String
  fragment : Option String
deriving DecidableEq, Repr

namespace Address

open Text (splitAtAll cutAt cutAtLast)

/-! ## What stands for itself -/

/-- Whether a character is a slash, which may lean either way. -/
def isSlash (c : Char) : Bool := c == '/' || c == '\\'

/-- Printable ASCII characters, the space excluded. -/
def isGraphic (c : Char) : Bool := 0x21 ≤ c.toNat && c.toNat ≤ 0x7E

/-- Characters that a path keeps. -/
def inPath (c : Char) : Bool := isGraphic c && !("\"#<>?\x60\x7b\x7d".toList.contains c)

/-- Characters that a user or a password keeps. -/
def inUser (c : Char) : Bool := inPath c && !("/:;=@[\\]^|".toList.contains c)

/-- Characters that a query keeps. -/
def inQuery (c : Char) : Bool := isGraphic c && !("\"#<>'".toList.contains c)

/-- Characters that a fragment keeps. -/
def inFragment (c : Char) : Bool := isGraphic c && !("\"<>\x60".toList.contains c)

/-! ## Paths -/

/-- A path segment in lower case with its encoded dots decoded. -/
def plainDots (segment : List Char) : List Char :=
  match segment.map Char.toLower with
  | '%' :: '2' :: 'e' :: rest => '.' :: go rest
  | cs => go cs
where
  /-- Decodes an encoded dot at the end of what follows a dot. -/
  go : List Char → List Char
  | ['%', '2', 'e'] => ['.']
  | ['.', '%', '2', 'e'] => ['.', '.']
  | cs => cs

/-- Whether a segment names a drive: a letter and a colon or a bar. -/
def isDrive (segment : List Char) : Bool :=
  match segment with
  | [letter, mark] => letter.isAlpha && (mark == ':' || mark == '|')
  | _ => false

/-- The segments that lead to the level above, last first; a drive has none. -/
def levelAbove (kept : List (List Char)) : List (List Char) :=
  if kept.head?.any isDrive then kept else kept.drop 1

/-- Removes the segments that name the same level or the level above; `kept` holds the segments
before, last first. -/
def resolveDots (kept : List (List Char)) : List (List Char) → List (List Char)
  | [] => kept.reverse
  | segment :: rest =>
    match plainDots segment with
    | ['.'] => resolveDots (if rest.isEmpty then [] :: kept else kept) rest
    | ['.', '.'] =>
      resolveDots (if rest.isEmpty then [] :: levelAbove kept else levelAbove kept) rest
    | _ => resolveDots (segment :: kept) rest

/-- The canonical path. -/
def canonicalPath (cs : List Char) : String :=
  let segments := splitAtAll isSlash
    (match cs with
    | '/' :: rest => rest
    | '\\' :: rest => rest
    | cs => cs)
  String.ofList ('/' :: ['/'].intercalate ((resolveDots [] segments).map (Percent.encode inPath)))

/-! ## Reading -/

/-- Host and socket apart: the socket follows the last colon that is not in brackets. -/
def hostAndSocket (cs : List Char) : List Char × List Char :=
  match cs with
  | '[' :: _ =>
    match cutAt (· == ']') cs with
    | (host, some (':' :: socket)) => (host ++ [']'], socket)
    | (host, some []) => (host ++ [']'], [])
    | _ => (cs, [])
  | _ =>
    match cutAt (· == ':') cs with
    | (host, some socket) => (host, socket)
    | (host, none) => (host, [])

/-- The number of a socket: nothing, or figures up to 65535. -/
def socket? (cs : List Char) : Option (Option Nat) :=
  if cs.isEmpty then some none
  else (Host.figures? 10 cs).bind fun n => if n < 65536 then some (some n) else none

/-- The socket that a web address usually has. -/
def usualSocket (secure : Bool) : Nat := if secure then 443 else 80

/-- Reads what follows the scheme of a web address. -/
def ofRest? (secure : Bool) (cs : List Char) : Option Address :=
  let cs := cs.dropWhile isSlash
  let (cs, fragment) := cutAt (· == '#') cs
  let (cs, query) := cutAt (· == '?') cs
  let authority := cs.takeWhile (!isSlash ·)
  let path := cs.drop authority.length
  let (login, place) := cutAtLast (· == '@') authority
  let (user, password) := cutAt (· == ':') (login.getD [])
  let (host, socket) := hostAndSocket place
  match Host.ofText? host, socket? socket with
  | some host, some socket => some {
      secure, host
      user := String.ofList (Percent.encode inUser user)
      password := String.ofList (Percent.encode inUser (password.getD []))
      socket := socket.filter (· != usualSocket secure)
      path := canonicalPath path
      query := query.map fun q => String.ofList (Percent.encode inQuery q)
      fragment := fragment.map fun f => String.ofList (Percent.encode inFragment f) }
  | _, _ => none

/-! ## Other schemes

An address of another scheme is none of the web, but it has to be an address. -/

/-- Schemes whose addresses have the form of a web address. -/
def similarSchemes : List String := ["ftp", "ws", "wss"]

/-- Characters that no host of an unknown scheme has. -/
def isForbiddenAnywhere (c : Char) : Bool := "\x00\t\n\r #/:<>?@[\\]^|".toList.contains c

/-- Whether a text is a host of an unknown scheme. -/
def isForeignHost (cs : List Char) : Bool :=
  match cs with
  | '[' :: _ => (Host.ofText? cs).isSome
  | cs => !cs.any isForbiddenAnywhere

/-- Whether what follows an unknown scheme is readable. Only an authority can be unreadable: its
host may be missing if it has neither login nor socket. -/
def isForeignPlace (cs : List Char) : Bool :=
  match cs with
  | '/' :: '/' :: cs =>
    let authority := cs.takeWhile fun c => !"/?#".toList.contains c
    let (login, place) := cutAtLast (· == '@') authority
    let (host, socket) := hostAndSocket place
    let socket := socket.takeWhile (· != '\\')
    if place.isEmpty then
      match login with
      | none => true
      | some [] => cs.length == authority.length
      | some login => login == [':']
    else !host.isEmpty && isForeignHost host && (socket? socket).isSome
  | _ => true

/-- Whether what follows the scheme of a file is readable. Only a host can be unreadable; it may be
missing, or a drive may stand in its place. -/
def isFilePlace (cs : List Char) : Bool :=
  if cs.length < 2 || !(cs.take 2).all isSlash then true
  else
    let host := (cs.drop 2).takeWhile fun c => !isSlash c && c != '?' && c != '#'
    host.isEmpty || isDrive host || (Host.ofText? host).isSome

/-- Whether what follows a scheme, which is none of the web, makes it an address. -/
def isAddressElsewhere (scheme : String) (cs : List Char) : Bool :=
  if similarSchemes.contains scheme then (ofRest? false cs).isSome
  else if scheme = "file" then isFilePlace cs
  else isForeignPlace cs

/-! ## Any scheme -/

/-- Reads a web address. -/
def ofText (s : String) : Except AddressError Address :=
  let cs := (Text.trimWhile (fun c => c.toNat ≤ 0x20) s.toList).filter fun c =>
    c != '\t' && c != '\n' && c != '\r'
  match cutAt (· == ':') cs with
  | (scheme, some rest) =>
    let name := String.ofList (scheme.map Char.toLower)
    if !Reference.isScheme scheme then .error .form
    else if name = "https" ∨ name = "http" then
      match ofRest? (name == "https") rest with
      | some a => .ok a
      | none => .error .form
    else .error (if isAddressElsewhere name rest then .scheme else .form)
  | (_, none) => .error .form

/-! ## Writing -/

/-- The written form of an address. -/
def text (a : Address) : String :=
  let login :=
    if a.user = "" && a.password = "" then ""
    else a.user ++ (if a.password = "" then "" else ":" ++ a.password) ++ "@"
  let socket := match a.socket with
    | some n => ":" ++ toString n
    | none => ""
  let query := match a.query with
    | some q => "?" ++ q
    | none => ""
  let fragment := match a.fragment with
    | some f => "#" ++ f
    | none => ""
  let scheme := if a.secure then "https://" else "http://"
  scheme ++ login ++ a.host.text ++ socket ++ a.path ++ query ++ fragment

end Address

end TaskSieve.Web
