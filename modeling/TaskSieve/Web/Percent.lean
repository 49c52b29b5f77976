import TaskSieve.Text.Hex
import TaskSieve.Text.Utf8

set_option autoImplicit false

/-! # Percent encoding

In an address, a byte that must not stand for itself is written as a percent sign and two
hexadecimal digits. -/

namespace TaskSieve.Web

open Text (hexValue?)

namespace Percent

/-- A byte as a percent sign and two digits. -/
def byte (b : UInt8) : List Char :=
  ['%', (Nat.digitChar (b.toNat / 16)).toUpper, (Nat.digitChar (b.toNat % 16)).toUpper]

/-- Writes the characters outside a set as their bytes. -/
def encode (keep : Char → Bool) (cs : List Char) : List Char :=
  cs.flatMap fun c => if keep c then [c] else (Text.toBytes [c]).flatMap byte

/-- The bytes that a percent-encoded text stands for. -/
def decode : List Char → List UInt8
  | '%' :: a :: b :: rest =>
    match hexValue? a, hexValue? b with
    | some a, some b => UInt8.ofNat (16 * a + b) :: decode rest
    | _, _ => '%'.toUInt8 :: decode (a :: b :: rest)
  | c :: rest => Text.toBytes [c] ++ decode rest
  | [] => []

end Percent

end TaskSieve.Web
