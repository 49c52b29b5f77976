import TaskSieve.Datum.Text

set_option autoImplicit false

/-! # Arguments

What the operations on a store are given, by place or by name. Beside values there are the bytes of
a text: as a field of a filter they are read as that text, but they equal no text, so nothing is
found by them. -/

namespace TaskSieve

/-- An argument: a value, or the bytes of a text. -/
inductive StoreArgument where
  | value (d : Datum)
  | bytes (text : String)
deriving Repr

/-- Arguments by name. -/
abbrev StoreArguments := List (String × StoreArgument)

namespace StoreArgument

/-- What an argument is read as. -/
def read : StoreArgument → Datum
  | value d => d
  | bytes s => .text s

/-- The text that an argument equals, if there is one. -/
def text? : StoreArgument → Option String
  | value d => d.text?
  | bytes _ => none

/-- Whether an argument can be looked up as an id: lists and records cannot. -/
def isKey : StoreArgument → Bool
  | value (.list _) | value (.record _) => false
  | _ => true

/-- A byte between quotes. -/
def byteText (quote : Char) (b : UInt8) : List Char :=
  if b < 0x80 then Text.quotedChar quote (Char.ofNat b.toNat)
  else '\\' :: 'x' :: Text.hex 2 b.toNat

/-- An argument as a message shows it, if it can be written. -/
def shown : StoreArgument → Except Overlong String
  | value d => d.toText
  | bytes s =>
    let q := Text.enclosingQuote s
    .ok (String.ofList ('b' :: q :: s.toUTF8.toList.flatMap (byteText q) ++ [q]))

end StoreArgument

namespace StoreArguments

/-- The fields that arguments are read as. -/
def fields (given : StoreArguments) : Fields := given.map fun a => (a.1, a.2.read)

/-- The text that the argument with a name equals. -/
def text? (given : StoreArguments) (name : String) : Option String :=
  (given.lookup name).bind StoreArgument.text?

/-- Fields as arguments. -/
def ofFields (fields : Fields) : StoreArguments := fields.map fun f => (f.1, .value f.2)

end StoreArguments

end TaskSieve
