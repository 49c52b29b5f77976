import TaskSieve.Datum.Reader
import TaskSieve.Datum.Writer
import TaskSieve.Saved.Store

set_option autoImplicit false

/-! # Files of saved filters

A file keeps the saved filters of all sessions in one JSON object, under the ids of the sessions. A
write replaces the entry of one session and keeps the rest of the file. A file that is absent, or
that holds no object, has no saved filters; only an object can be written to. -/

namespace TaskSieve

open Schema

/-- Why a file cannot be read or written. -/
inductive FileError where
  | notJson
  | notList
  | notObject
  | badEntry (issues : List Issue)
  /-- An integer to be read or written has too many digits. -/
  | overlong (found : Overlong)
deriving DecidableEq, Repr

/-- Why a file with a text that cannot be read is none. -/
def FileError.ofReadFault : Datum.ReadFault → FileError
  | .malformed => .notJson
  | .overlong o => .overlong o

namespace SavedFile

/-- The values that an entry of a session lists. A text lists its characters and an object its
keys; other values list nothing. -/
def entries? : Datum → Option (List Datum)
  | .list items => some items
  | .text s => some (s.toList.map fun c => .text (String.singleton c))
  | .record fields => some (fields.map fun f => .text f.1)
  | _ => none

/-- Reads saved filters one after another. Of two with one id the later counts. -/
def readEntries (ticket : Ticket) (store : Store) : List Datum → Except FileError Store
  | [] => .ok store
  | d :: rest =>
    match SavedFilter.ofDatum ticket d with
    | .invalid is => .error (.badEntry is)
    | .valid s => readEntries ticket (store.put s) rest

/-- The store of a session in a file, whose text is given if it exists. -/
def load (session : String) (ticket : Ticket) : (file : Option String) → Except FileError Store
  | none => .ok []
  | some source =>
    match Datum.read source with
    | .error e => .error (.ofReadFault e)
    | .ok (.record fields) =>
      match entries? ((Fields.get? fields session).getD (.list [])) with
      | none => .error .notList
      | some items => readEntries ticket [] items
    | .ok _ => .ok []

/-- The text of a file after the store of a session is written to it. -/
def save (session : String) (store : Store) (file : Option String) : Except FileError String :=
  let write (fields : Fields) : Except FileError String :=
    (fields.put session (.list (store.map SavedFilter.toDatum)) |> Datum.record).write.mapError
      .overlong
  match file with
  | none => write []
  | some source =>
    match Datum.read source with
    | .error e => .error (.ofReadFault e)
    | .ok (.record fields) => write fields
    | .ok _ => .error .notObject

end SavedFile

end TaskSieve
