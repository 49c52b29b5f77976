import TaskSieve.Digest.Sha256
import TaskSieve.Saved.File

set_option autoImplicit false

/-! # Sessions

Every pair of a service address and a token is a session with a store of its own. Stores are opened
on first use. If they are kept in a file, every change is written to the file before it counts, so
memory never runs ahead of the file. -/

namespace TaskSieve

/-- Where stores are kept: in memory only, or in a file, whose text is given if it exists. -/
inductive Shelf where
  | memory
  | file (text : Option String)
deriving DecidableEq, Repr

/-- The id of the session of an address and a token: the address without closing slashes, and the
start of the token's digest. -/
def sessionId (address token : String) : String :=
  let base := (address.toList.reverse.dropWhile (· == '/')).reverse
  let digest := (Sha256.hexDigest token.toUTF8.toList).take 16
  String.ofList (base ++ ':' :: digest)

/-- The opened stores and the place where they are kept. -/
structure Sessions where
  shelf : Shelf
  stores : List (String × Store) := []
deriving DecidableEq, Repr

namespace Sessions

/-- The store of a session, if it is open. -/
def store? (s : Sessions) (session : String) : Option Store := s.stores.lookup session

/-- How many sessions are open. -/
def count (s : Sessions) : Nat := s.stores.length

/-- Sets the store of a session. -/
def setStore (session : String) (store : Store) : List (String × Store) → List (String × Store)
  | [] => [(session, store)]
  | (id, old) :: rest =>
    if id = session then (id, store) :: rest else (id, old) :: setStore session store rest

/-- The store that a session starts with. -/
def load (s : Sessions) (session : String) (ticket : Ticket) : Except FileError Store :=
  match s.shelf with
  | .memory => .ok []
  | .file text => SavedFile.load session ticket text

/-- Opens the store of a session, if it is not open. -/
def enter (s : Sessions) (session : String) (ticket : Ticket) :
    Except FileError (Store × Sessions) :=
  match s.store? session with
  | some store => .ok (store, s)
  | none => do
    let store ← s.load session ticket
    .ok (store, { s with stores := setStore session store s.stores })

/-- Writes the changed store of a session to where stores are kept, and then makes it current. -/
def commit (s : Sessions) (session : String) (store : Store) : Except FileError Sessions :=
  match s.shelf with
  | .memory => .ok { s with stores := setStore session store s.stores }
  | .file text => do
    let text ← SavedFile.save session store text
    .ok ⟨.file (some text), setStore session store s.stores⟩

/-- Closes all sessions; what is kept in a file stays there. -/
def reopen (s : Sessions) : Sessions := ⟨s.shelf, []⟩

end Sessions

end TaskSieve
