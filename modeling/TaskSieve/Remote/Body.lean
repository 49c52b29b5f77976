import TaskSieve.Datum.Reader
import TaskSieve.Datum.Writer
import TaskSieve.Packed.Deflate
import TaskSieve.Text.Blank
import TaskSieve.Text.Encoding

set_option autoImplicit false

/-! # What an answer brings

An answer has headers, each a name with a value, and a body. The headers tell how the body is
packed; unpacked, it is read as JSON. -/

namespace TaskSieve.Remote

/-! ## Headers -/

/-- The headers of an answer, in order. Letter case does not count in their names. -/
abbrev Headers := List (String × String)

namespace Headers

/-- Whether names and values are ASCII. -/
def isPlain (hs : Headers) : Bool :=
  hs.all fun h => (h.1.toList ++ h.2.toList).all fun c => c.toNat < 128

/-- The values of the headers with a name, which is given in lower case. -/
def values (hs : Headers) (name : String) : List String :=
  (hs.filter fun h => h.1.toLower == name).map (·.2)

/-- The value for a name; several values are joined by commas. -/
def get? (hs : Headers) (name : String) : Option String :=
  match hs.values name with
  | [] => none
  | values => some (", ".intercalate values)

/-- The items that the values for a name list, which are separated by commas. -/
def list (hs : Headers) (name : String) : List String :=
  (hs.values name).flatMap fun value =>
    (Text.splitAtAll (· == ',') value.toList).map fun item => String.ofList (Text.trim item)

end Headers

/-! ## Bodies -/

/-- The body of an answer. -/
inductive Body where
  /-- A JSON text that is read as this value. -/
  | json (value : Datum)
  | raw (bytes : List UInt8)
deriving Repr

/-- How a body may be packed. -/
inductive Packing where
  | deflate
  | gzip
deriving DecidableEq, Repr

/-- The packing with a name; unknown ones leave a body as it is. -/
def Packing.ofName? (name : String) : Option Packing :=
  match name.toLower with
  | "deflate" => some .deflate
  | "gzip" => some .gzip
  | _ => none

/-- Undoes a packing. What `gzip` has packed begins with two bytes that no text has, so a body that
is not cut off before them is refused. -/
def Packing.undo? (p : Packing) (bytes : List UInt8) : Option (List UInt8) :=
  match p with
  | .deflate => if bytes.isEmpty then some [] else Packed.inflate? bytes
  | .gzip => if bytes.length < 2 then some [] else none

namespace Body

/-- A body without bytes. -/
def empty : Body := .raw []

/-- A body that holds a text. -/
def ofText (s : String) : Body := .raw (Text.toBytes s.toList)

/-- The bytes of a body. -/
def bytes : Body → List UInt8
  | json d => Text.toBytes d.writeLine.toList
  | raw bytes => bytes

/-- The body without its packings, which are named in the order in which they were applied. -/
def unpacked? (b : Body) (names : List String) : Option Body :=
  match names.filterMap Packing.ofName? with
  | [] => some b
  | packings => (packings.foldrM Packing.undo? b.bytes).map .raw

/-- The value that a body holds, if it holds one that can be read. -/
def decode? : Body → Option Datum
  | json d => some d
  | raw bytes => (Text.decode? bytes).bind fun cs => (Datum.read (String.ofList cs)).toOption

end Body

end TaskSieve.Remote
