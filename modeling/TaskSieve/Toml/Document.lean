import TaskSieve.Toml.Value

set_option autoImplicit false

/-! # TOML documents

A document is a sequence of lines that set a key or open a table, and the table that they make. A
key is set once; a table is opened once, unless it is one of a list of tables; and what has been
written as one value is not added to. -/

namespace TaskSieve.Toml

/-- What has been read so far: the table, the table that is open, and what may no longer change. -/
structure Document where
  table : Fields := []
  header : List String := []
  /-- Tables that may not be opened again. -/
  opened : List (List String) := []
  /-- Tables that keys with points have made, which may not be opened after the next header. -/
  made : List (List String) := []
  /-- Values to which nothing may be added. -/
  closed : List (List String) := []
deriving Repr

namespace Document

/-- The document once a new header begins. -/
def atHeader (d : Document) : Document :=
  { d with opened := d.made ++ d.opened, made := [] }

/-- Opens a table. -/
def openTable (d : Document) (path : List String) : Option Document :=
  if d.opened.contains path || isWithin d.closed path then none
  else (alter true some path d.table).map fun table =>
    { d with table, header := path, opened := path :: d.opened }

/-- Adds a table to a list of tables, or begins such a list. -/
def addTable (key : String) (table : Fields) : Option Fields :=
  match table.get? key with
  | none => some (table.put key (.list [.record []]))
  | some (.list items) => some (table.put key (.list (items ++ [.record []])))
  | some _ => none

/-- Opens the next table of a list of tables; what was said about the one before is forgotten. -/
def openNext (d : Document) (path : List String) : Option Document :=
  if isWithin d.closed path then none
  else
    let elsewhere (places : List (List String)) := places.filter fun p => !path.isPrefixOf p
    (alter true (addTable (path.getLast?.getD "")) path.dropLast d.table).map fun table =>
      { d with
        table
        header := path
        opened := path :: elsewhere d.opened
        closed := elsewhere d.closed }

/-- The tables that a key with points passes through. -/
def passed (header key : List String) : List (List String) :=
  (List.range (key.length - 1)).map fun i => header ++ key.take (i + 1)

/-- Sets a key. -/
def set (d : Document) (key : List String) (value : Datum) : Option Document :=
  let tables := passed d.header key
  let path := d.header ++ key
  if tables.any d.opened.contains || isWithin d.closed path.dropLast then none
  else (alter true (addEntry (path.getLast?.getD "") value) path.dropLast d.table).map fun table =>
    { d with
      table
      made := tables ++ d.made
      closed := if isClosed value then path :: d.closed else d.closed }

/-- Reads one statement. -/
def statement (d : Document) (cs : List Char) : Option (Document × List Char) :=
  match cs with
  | '[' :: '[' :: rest =>
    match takeKey (skipGaps rest) with
    | some (path, ']' :: ']' :: rest) => (d.atHeader.openNext path).map fun d => (d, rest)
    | _ => none
  | '[' :: rest =>
    match takeKey (skipGaps rest) with
    | some (path, ']' :: rest) => (d.atHeader.openTable path).map fun d => (d, rest)
    | _ => none
  | cs =>
    match takePairing cs with
    | some ((key, value), rest) => (d.set key value).map fun d => (d, rest)
    | none => none

/-- What is left of a line after its statement: nothing, or a comment. -/
def isTail (cs : List Char) : Bool :=
  match skipGaps cs with
  | [] => true
  | '#' :: rest => !rest.any isControl
  | _ => false

/-- Reads the statements of a text, at most `fuel` lines. A statement may end on a later line than
it began on. -/
def readWithin (fuel : Nat) (d : Document) (cs : List Char) : Option Document :=
  match fuel, skipGaps cs with
  | _, [] => some d
  | 0, _ => none
  | fuel + 1, '\n' :: rest => readWithin fuel d rest
  | fuel + 1, '#' :: rest => finish fuel d ('#' :: rest)
  | fuel + 1, cs =>
    match d.statement cs with
    | some (d, rest) => finish fuel d rest
    | none => none
where
  /-- Goes on after the rest of a line. -/
  finish (fuel : Nat) (d : Document) (cs : List Char) : Option Document :=
    if isTail (cs.takeWhile (· != '\n')) then readWithin fuel d ((cs.dropWhile (· != '\n')).drop 1)
    else none

/-- Line ends of two characters become one. -/
def joinLineEnds : List Char → List Char
  | '\r' :: '\n' :: rest => '\n' :: joinLineEnds rest
  | c :: rest => c :: joinLineEnds rest
  | [] => []

/-- Reads a document. -/
def read? (source : String) : Option Fields :=
  let cs := joinLineEnds source.toList
  (readWithin (cs.length + 1) {} cs).map (·.table)

end Document

end TaskSieve.Toml
