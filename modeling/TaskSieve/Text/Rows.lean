import TaskSieve.Text.Hex
import TaskSieve.Text.Split

set_option autoImplicit false

/-! # Tables in rows

Large tables of character properties are written in rows of text, one entry after the other. An
entry is a code point in hexadecimal, or a range of them such as `41-5A`; `/2` after a range leaves
out every other one. What the table says of them follows an equals sign. -/

namespace TaskSieve.Text

/-- What a table says of the code points `first`, `first + stride`, … up to `last`. -/
structure Entry where
  first : Nat
  last : Nat
  stride : Nat
  note : List Char

namespace Entry

/-- Whether an entry is about a code point. -/
def covers (e : Entry) (n : Nat) : Bool :=
  e.first ≤ n && n ≤ e.last && (n - e.first) % e.stride == 0

/-- Reads an entry. -/
def ofText (cs : List Char) : Entry :=
  let (place, note) := cutAt (· == '=') cs
  let (bounds, stride) := cutAt (· == '/') place
  let (first, last) := cutAt (· == '-') bounds
  { first := hexNumber first
    last := hexNumber (last.getD first)
    stride := (stride.map hexNumber).getD 1
    note := note.getD [] }

/-- The entries in the rows of a table. -/
def ofRows (rows : List String) : List Entry :=
  rows.flatMap fun row => (splitAtAll (· == ' ') row.toList).map ofText

/-- The code points that an entry lists behind its equals sign. -/
def listed (e : Entry) : List Nat := (splitAtAll (· == '+') e.note).map hexNumber

/-- Whether a table says something of a character. -/
def mention (entries : List Entry) (c : Char) : Bool := entries.any (·.covers c.toNat)

end Entry

end TaskSieve.Text
