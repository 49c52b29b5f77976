import TaskSieve.Text.Split

set_option autoImplicit false

/-! # References

A reference to a place on the web, any part of which may be left out. A reference is joined to the
one that it was found at: the parts that it leaves out are those of the place where it stands. -/

namespace TaskSieve.Web

open Text (splitAtAll cutAt)

/-- A reference, taken apart. What is not there is empty, except that an empty query or fragment
may stand behind its mark. -/
structure Reference where
  scheme : List Char
  /-- Login, host and socket. -/
  authority : List Char
  path : List Char
  query : Option (List Char)
  fragment : Option (List Char)
deriving DecidableEq, Repr

namespace Reference

/-! ## Reading and writing -/

/-- Characters of a scheme. -/
def inScheme (c : Char) : Bool := c.isAlphanum || c == '+' || c == '-' || c == '.'

/-- Whether a text is a scheme: it starts with a letter. -/
def isScheme (cs : List Char) : Bool := cs.head?.any Char.isAlpha && cs.all inScheme

/-- Takes the scheme off a reference. A colon with nothing before it is taken off, too. -/
def takeScheme (cs : List Char) : List Char × List Char :=
  match cutAt (· == ':') cs with
  | (scheme, some rest) => if scheme.isEmpty || isScheme scheme then (scheme, rest) else ([], cs)
  | (_, none) => ([], cs)

/-- Takes a reference apart. -/
def ofText (cs : List Char) : Reference :=
  let (scheme, cs) := takeScheme cs
  let (cs, fragment) := cutAt (· == '#') cs
  let (cs, query) := cutAt (· == '?') cs
  match cs with
  | '/' :: '/' :: rest =>
    ⟨scheme, rest.takeWhile (· != '/'), rest.dropWhile (· != '/'), query, fragment⟩
  | path => ⟨scheme, [], path, query, fragment⟩

/-- A part behind its mark, if it is there. -/
def marked (mark : Char) : Option (List Char) → List Char
  | some cs => mark :: cs
  | none => []

/-- Writes a reference. -/
def text (r : Reference) : List Char :=
  (if r.scheme.isEmpty then [] else r.scheme ++ [':']) ++
    (if r.authority.isEmpty then [] else '/' :: '/' :: r.authority) ++
    r.path ++ marked '?' r.query ++ marked '#' r.fragment

/-! ## Joining -/

/-- The schemes of hierarchies, in which a reference may leave out where it starts. -/
def hierarchies : List String :=
  ["ftp", "http", "gopher", "nntp", "imap", "wais", "file", "https", "shttp", "mms", "prospero",
    "rtsp", "rtspu", "sftp", "svn", "svn+ssh", "ws", "wss"]

/-- The hierarchies in which a semicolon sets parameters apart from the last segment of a path. -/
def parameterized : List String :=
  ["ftp", "prospero", "http", "imap", "https", "shttp", "rtsp", "rtspu", "mms", "sftp"]

/-- A path and the parameters of its last segment. -/
def takeParameters (scheme path : List Char) : List Char × List Char :=
  if parameterized.contains (String.ofList scheme) then
    let last := (path.reverse.takeWhile (· != '/')).reverse
    match cutAt (· == ';') last with
    | (name, some parameters) => (path.take (path.length - last.length) ++ name, parameters)
    | (_, none) => (path, [])
  else (path, [])

/-- A path with the parameters of its last segment, unless there are none. -/
def putParameters (path parameters : List Char) : List Char :=
  if parameters.isEmpty then path else path ++ ';' :: parameters

/-- Resolves the segments `.` and `..`; one at the end leaves an empty segment. `kept` holds the
segments before, last first. -/
def resolveDots (kept : List (List Char)) : List (List Char) → List (List Char)
  | [] => kept.reverse
  | ['.'] :: rest => resolveDots (if rest.isEmpty then [] :: kept else kept) rest
  | ['.', '.'] :: rest => resolveDots (if rest.isEmpty then [] :: kept.drop 1 else kept.drop 1) rest
  | segment :: rest => resolveDots (segment :: kept) rest

/-- A list without the empty segments between its first and its last. -/
def dropEmptyInside (segments : List (List Char)) : List (List Char) :=
  match segments with
  | [] => []
  | first :: rest => first :: (rest.dropLast.filter fun s => !s.isEmpty) ++ rest.getLast?.toList

/-- The path to which a path leads that is found at the path `base`. -/
def joinPath (base path : List Char) : List Char :=
  let segments := splitAtAll (· == '/') path
  let segments :=
    if path.head? = some '/' then segments
    else
      let before := splitAtAll (· == '/') base
      let before := if before.getLast? = some [] then before else before.dropLast
      dropEmptyInside (before ++ segments)
  match ['/'].intercalate (resolveDots [] segments) with
  | [] => ['/']
  | cs => cs

/-- A path that follows an authority: it starts with a slash, unless it is empty. -/
def slashed (path : List Char) : List Char :=
  if path.isEmpty || path.head? == some '/' then path else '/' :: path

/-- A part without its mark if nothing stands behind it. -/
def filled (part : Option (List Char)) : Option (List Char) := part.filter fun cs => !cs.isEmpty

/-- The reference to which a reference leads that is found at `base`. An empty one leads to `base`;
one of another scheme, or of a scheme that is no hierarchy, stands for itself. -/
def join (base r : Reference) : Reference :=
  let scheme := if r.scheme.isEmpty then base.scheme else r.scheme.map Char.toLower
  if r.text.isEmpty then base
  else if scheme ≠ base.scheme ∨ !hierarchies.contains (String.ofList scheme) then r
  else
    let (path, parameters) := takeParameters scheme r.path
    let query := filled r.query
    let fragment := filled r.fragment
    if !r.authority.isEmpty then
      ⟨scheme, r.authority, putParameters path parameters, query, fragment⟩
    else if path.isEmpty && parameters.isEmpty then
      let (path, parameters) := takeParameters scheme base.path
      ⟨scheme, base.authority, putParameters path parameters, query.or (filled base.query),
        fragment⟩
    else
      let path := slashed (joinPath (takeParameters scheme base.path).1 path)
      ⟨scheme, base.authority, putParameters path parameters, query, fragment⟩

end Reference

end TaskSieve.Web
