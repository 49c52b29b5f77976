set_option autoImplicit false

/-! # Bits

Packed bytes are read bit by bit, the lowest bit of each byte first. Reading stops early where the
bits run out or make no sense. -/

namespace TaskSieve.Packed

/-- Why reading stops before the end that the bits themselves mark. -/
inductive Stop where
  /-- There are no bits left. -/
  | short
  /-- The bits make no sense. -/
  | broken
deriving DecidableEq, Repr

/-- Something that is read from bits. -/
abbrev BitReader (α : Type) := StateT (List Bool) (Except Stop) α

/-- The bits of bytes. -/
def bitsOf (bytes : List UInt8) : List Bool :=
  bytes.flatMap fun b => (List.range 8).map fun i => b.toNat.testBit i

/-- The number whose binary digits these are, the lowest first. -/
def numberOf (bits : List Bool) : Nat := bits.foldr (fun b n => 2 * n + b.toNat) 0

namespace BitReader

/-- Reads a bit. -/
def bit : BitReader Bool := fun bits =>
  match bits with
  | [] => .error .short
  | b :: rest => .ok (b, rest)

/-- Reads a number of so many bits. -/
def number (width : Nat) : BitReader Nat := fun bits =>
  if bits.length < width then .error .short
  else .ok (numberOf (bits.take width), bits.drop width)

/-- Skips what is left of a byte of which a bit has been read. -/
def align : BitReader Unit := fun bits => .ok ((), bits.drop (bits.length % 8))

end BitReader

end TaskSieve.Packed
