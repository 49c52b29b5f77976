import TaskSieve.Text.Utf8

set_option autoImplicit false

/-! # Encodings of text

Text may be laid out in bytes one to four bytes a character, in units of two bytes or in units of
four bytes. A mark at the beginning tells which, and so do the zeros among the first bytes, because
such a text begins with characters of ASCII. -/

namespace TaskSieve.Text

/-- How text is laid out in bytes. -/
inductive Encoding where
  /-- One to four bytes a character. -/
  | bytes
  /-- Units of two bytes, the higher one first or last. -/
  | pairs (highFirst : Bool)
  /-- Four bytes a character, the highest one first or last. -/
  | quads (highFirst : Bool)
deriving DecidableEq, Repr

namespace Encoding

/-- The encoding that a mark at the beginning tells, and how long the mark is. -/
def marked? : List Nat → Option (Encoding × Nat)
  | 0 :: 0 :: 0xFE :: 0xFF :: _ => some (quads true, 4)
  | 0xFF :: 0xFE :: 0 :: 0 :: _ => some (quads false, 4)
  | 0xFE :: 0xFF :: _ => some (pairs true, 2)
  | 0xFF :: 0xFE :: _ => some (pairs false, 2)
  | 0xEF :: 0xBB :: 0xBF :: _ => some (bytes, 3)
  | _ => none

/-- The encoding that the zeros among the first bytes tell. -/
def ofZeros : List Nat → Encoding
  | a :: b :: c :: d :: _ =>
    if a = 0 then (if b = 0 then quads true else pairs true)
    else if b = 0 then (if c = 0 ∧ d = 0 then quads false else pairs false)
    else bytes
  | [a, b] => if a = 0 then pairs true else if b = 0 then pairs false else bytes
  | _ => bytes

/-! ## Reading -/

/-- The character with a code point, if there is one. -/
def char? (n : Nat) : Option Char := if n.isValidChar then some (Char.ofNat n) else none

/-- The units that bytes make in pairs. -/
def units? (highFirst : Bool) : List Nat → Option (List Nat)
  | [] => some []
  | a :: b :: rest =>
    (units? highFirst rest).map ((if highFirst then 256 * a + b else 256 * b + a) :: ·)
  | [_] => none

/-- The text that units of two bytes write; two units beyond the others make one character. -/
def ofUnits? : List Nat → Option (List Char)
  | [] => some []
  | a :: b :: rest =>
    if 0xD800 ≤ a ∧ a < 0xDC00 ∧ 0xDC00 ≤ b ∧ b < 0xE000 then
      (ofUnits? rest).bind fun cs =>
        (char? (0x10000 + 0x400 * (a - 0xD800) + (b - 0xDC00))).map (· :: cs)
    else (ofUnits? (b :: rest)).bind fun cs => (char? a).map (· :: cs)
  | [a] => (char? a).map ([·])

/-- The text that four bytes a character write. -/
def ofQuads? (highFirst : Bool) : List Nat → Option (List Char)
  | [] => some []
  | a :: b :: c :: d :: rest =>
    let n := if highFirst then ((256 * a + b) * 256 + c) * 256 + d
      else ((256 * d + c) * 256 + b) * 256 + a
    (ofQuads? highFirst rest).bind fun cs => (char? n).map (· :: cs)
  | _ => none

/-- The text that bytes write in an encoding, if they write one. -/
def decode? (e : Encoding) (bs : List UInt8) : Option (List Char) :=
  match e with
  | bytes => (some (ofBytes bs)).filter fun cs => toBytes cs == bs
  | pairs highFirst => (units? highFirst (bs.map UInt8.toNat)).bind ofUnits?
  | quads highFirst => ofQuads? highFirst (bs.map UInt8.toNat)

end Encoding

/-- The text that bytes write, in the encoding that their beginning tells. -/
def decode? (bs : List UInt8) : Option (List Char) :=
  let start := (bs.take 4).map UInt8.toNat
  match Encoding.marked? start with
  | some (e, length) => e.decode? (bs.drop length)
  | none => (Encoding.ofZeros start).decode? bs

end TaskSieve.Text
