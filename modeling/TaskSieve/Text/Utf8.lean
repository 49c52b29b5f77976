set_option autoImplicit false

/-! # Bytes of text

Reading bytes as text of one to four bytes a character. Bytes that begin no character, and
characters that are cut off, are replaced by the replacement character, one for each longest
beginning of a character. -/

namespace TaskSieve.Text

/-- The character that stands for bytes that are no text. -/
def replacement : Char := Char.ofNat 0xFFFD

/-- How a character goes on after its first byte: the bits that the first byte gives, the bounds of
the second byte, and how many more bytes follow. -/
structure Lead where
  bits : Nat
  low : Nat
  high : Nat
  more : Nat

/-- What the first byte of a character of several bytes promises, if it is one. -/
def lead? (b : Nat) : Option Lead :=
  if 0xC2 ≤ b && b ≤ 0xDF then some ⟨b - 0xC0, 0x80, 0xBF, 0⟩
  else if b = 0xE0 then some ⟨0, 0xA0, 0xBF, 1⟩
  else if b = 0xED then some ⟨0xD, 0x80, 0x9F, 1⟩
  else if 0xE1 ≤ b && b ≤ 0xEF then some ⟨b - 0xE0, 0x80, 0xBF, 1⟩
  else if b = 0xF0 then some ⟨0, 0x90, 0xBF, 2⟩
  else if 0xF1 ≤ b && b ≤ 0xF3 then some ⟨b - 0xF0, 0x80, 0xBF, 2⟩
  else if b = 0xF4 then some ⟨4, 0x80, 0x8F, 2⟩
  else none

/-- A reading in progress: inside a character, the bits so far, the bounds of the next byte and how
many follow it; and the characters read, last first. -/
structure Decoding where
  open? : Option Lead := none
  read : List Char := []

/-- Closes a character that was cut off. -/
def Decoding.cut (d : Decoding) : Decoding :=
  match d.open? with
  | some _ => ⟨none, replacement :: d.read⟩
  | none => d

/-- Reads a byte at the beginning of a character. -/
def Decoding.begin (d : Decoding) (b : Nat) : Decoding :=
  if b < 0x80 then ⟨none, Char.ofNat b :: d.read⟩
  else match lead? b with
    | some l => ⟨some l, d.read⟩
    | none => ⟨none, replacement :: d.read⟩

/-- Reads a byte. -/
def Decoding.next (d : Decoding) (b : Nat) : Decoding :=
  match d.open? with
  | none => d.begin b
  | some l =>
    if l.low ≤ b && b ≤ l.high then
      let bits := l.bits * 64 + (b - 0x80)
      match l.more with
      | 0 => ⟨none, Char.ofNat bits :: d.read⟩
      | more + 1 => ⟨some ⟨bits, 0x80, 0xBF, more⟩, d.read⟩
    else d.cut.begin b

/-- The text that bytes write. -/
def ofBytes (bytes : List UInt8) : List Char :=
  (bytes.foldl (fun d b => d.next b.toNat) ({} : Decoding)).cut.read.reverse

/-- The bytes that write a text. -/
def toBytes (cs : List Char) : List UInt8 := (String.ofList cs).toUTF8.toList

end TaskSieve.Text
