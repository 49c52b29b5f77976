import TaskSieve.Packed.Huffman

set_option autoImplicit false

/-! # Deflated bytes

Bytes are deflated in blocks. A block holds bytes as they are, or elements in two codes: single
bytes, and copies of bytes that came before, given by their length and distance. What has been read
when the bits run out counts, even if the last block is not complete. -/

namespace TaskSieve.Packed

/-- The codes of a block: one for bytes and lengths, one for distances. -/
structure BlockCodes where
  elements : Code
  distances : Code

namespace BlockCodes

/-- The codes of blocks that bring none of their own. -/
def usual : BlockCodes where
  elements := .ofLengths (List.replicate 144 8 ++ List.replicate 112 9 ++ List.replicate 24 7 ++
    List.replicate 8 8)
  distances := .ofLengths (List.replicate 32 5)

/-- The order in which the lengths of the words for lengths are given. -/
def lengthOrder : List Nat := [16, 17, 18, 0, 8, 7, 9, 6, 10, 5, 11, 4, 12, 3, 13, 2, 14, 1, 15]

/-- The code in which lengths are given. Where it has no word, each bit stands for zero. -/
def lengthCode? (given : List Nat) : Option Code :=
  let lengths := (List.range 19).map fun symbol =>
    ((lengthOrder.zip given).lookup symbol).getD 0
  let code := Code.ofLengths lengths
  if code.levels.isEmpty then some ⟨[[0, 0]]⟩
  else if code.isComplete then some code
  else none

/-- Reads a run of lengths: one of its own, or the last one or zero several times. -/
def lengthRun (code : Code) (last : Option Nat) : BitReader (List Nat) := do
  match ← code.symbol with
  | 16 =>
    let n ← BitReader.number 2
    match last with
    | some length => pure (List.replicate (3 + n) length)
    | none => throw .broken
  | 17 => return List.replicate (3 + (← BitReader.number 3)) 0
  | 18 => return List.replicate (11 + (← BitReader.number 7)) 0
  | length => pure [length]

/-- Reads lengths until there are `count`, in at most `count` runs. -/
def lengths (code : Code) (count runs : Nat) (before : List Nat) : BitReader (List Nat) :=
  if before.length = count then pure before
  else match runs with
    | 0 => throw .broken
    | runs + 1 => do
      let after := before ++ (← lengthRun code before.getLast?)
      if count < after.length then throw .broken
      lengths code count runs after

/-- Reads the codes that a block brings with it. -/
def read : BitReader BlockCodes := do
  let elements := 257 + (← BitReader.number 5)
  let distances := 1 + (← BitReader.number 5)
  let given := 4 + (← BitReader.number 4)
  if 286 < elements ∨ 30 < distances then throw .broken
  let code := lengthCode? (← (List.replicate given 3).mapM BitReader.number)
  match code with
  | none => throw .broken
  | some code =>
    let count := elements + distances
    let all ← lengths code count count []
    let codes : BlockCodes := ⟨.ofLengths (all.take elements), .ofLengths (all.drop elements)⟩
    if all[256]? = some 0 then throw .broken
    if codes.elements.isUsable && codes.distances.isUsable then pure codes else throw .broken

end BlockCodes

/-! ## Elements -/

/-- What a symbol of a block means. -/
inductive Element where
  | byte (b : UInt8)
  /-- So many bytes again that came so far before. -/
  | copy (length distance : Nat)
  /-- The block ends. -/
  | blockEnd
deriving DecidableEq, Repr

/-- The least length for each symbol after the one that ends a block, and how many bits add to
it. -/
def lengthSteps : List (Nat × Nat) :=
  [(3, 0), (4, 0), (5, 0), (6, 0), (7, 0), (8, 0), (9, 0), (10, 0), (11, 1), (13, 1), (15, 1),
    (17, 1), (19, 2), (23, 2), (27, 2), (31, 2), (35, 3), (43, 3), (51, 3), (59, 3), (67, 4),
    (83, 4), (99, 4), (115, 4), (131, 5), (163, 5), (195, 5), (227, 5), (258, 0)]

/-- The least distance for each symbol, and how many bits add to it. -/
def distanceSteps : List (Nat × Nat) :=
  [(1, 0), (2, 0), (3, 0), (4, 0), (5, 1), (7, 1), (9, 2), (13, 2), (17, 3), (25, 3), (33, 4),
    (49, 4), (65, 5), (97, 5), (129, 6), (193, 6), (257, 7), (385, 7), (513, 8), (769, 8),
    (1025, 9), (1537, 9), (2049, 10), (3073, 10), (4097, 11), (6145, 11), (8193, 12), (12289, 12),
    (16385, 13), (24577, 13)]

/-- Reads the number that a symbol stands for. -/
def stepNumber (steps : List (Nat × Nat)) (symbol : Nat) : BitReader Nat :=
  match steps[symbol]? with
  | some (least, width) => return least + (← BitReader.number width)
  | none => throw .broken

/-- Reads an element. -/
def Element.read (codes : BlockCodes) : BitReader Element := do
  let symbol ← codes.elements.symbol
  if symbol < 256 then pure (.byte (UInt8.ofNat symbol))
  else if symbol = 256 then pure .blockEnd
  else
    let length ← stepNumber lengthSteps (symbol - 257)
    let distance ← stepNumber distanceSteps (← codes.distances.symbol)
    pure (.copy length distance)

/-! ## Blocks -/

/-- How far reading has come: the bits left, the bytes read, last first, and why it stopped, if it
stopped early. -/
structure Progress where
  bits : List Bool
  bytes : List UInt8
  stop : Option Stop
deriving DecidableEq, Repr

/-- Copies bytes one by one, so that a copy may reach into itself. -/
def copied (bytes : List UInt8) (length distance : Nat) : List UInt8 :=
  (List.range length).foldl (fun bytes _ => bytes[distance - 1]?.toList ++ bytes) bytes

/-- Reads elements to the end of a block, at most `left` of them; each takes a bit at least. -/
def readElements (codes : BlockCodes) (left : Nat) (bits : List Bool) (bytes : List UInt8) :
    Progress :=
  match left with
  | 0 => ⟨bits, bytes, some .short⟩
  | left + 1 =>
    match Element.read codes bits with
    | .error stop => ⟨bits, bytes, some stop⟩
    | .ok (.blockEnd, bits) => ⟨bits, bytes, none⟩
    | .ok (.byte b, bits) => readElements codes left bits (b :: bytes)
    | .ok (.copy length distance, bits) =>
      if bytes.length < distance then ⟨bits, bytes, some .broken⟩
      else readElements codes left bits (copied bytes length distance)

/-- Reads bytes that stand as they are, at most `left` of them. -/
def readPlain (left : Nat) (bits : List Bool) (bytes : List UInt8) : Progress :=
  match left with
  | 0 => ⟨bits, bytes, none⟩
  | left + 1 =>
    match BitReader.number 8 bits with
    | .error stop => ⟨bits, bytes, some stop⟩
    | .ok (b, bits) => readPlain left bits (UInt8.ofNat b :: bytes)

/-- Reads how many bytes stand as they are: the number is given twice, once with all bits turned. -/
def plainLength : BitReader Nat := do
  BitReader.align
  let both ← BitReader.number 32
  if both % 65536 + both / 65536 = 65535 then pure (both % 65536) else throw .broken

/-- Reads what follows the head of a block. -/
def readBlock (kind : Nat) (bits : List Bool) (bytes : List UInt8) : Progress :=
  match kind with
  | 0 => match plainLength bits with
    | .error stop => ⟨bits, bytes, some stop⟩
    | .ok (length, bits) => readPlain length bits bytes
  | 1 => readElements .usual (bits.length + 1) bits bytes
  | 2 => match BlockCodes.read bits with
    | .error stop => ⟨bits, bytes, some stop⟩
    | .ok (codes, bits) => readElements codes (bits.length + 1) bits bytes
  | _ => ⟨bits, bytes, some .broken⟩

/-- Reads blocks to the last one, at most `left` of them; each takes three bits at least. -/
def readBlocks (left : Nat) (bits : List Bool) (bytes : List UInt8) : Progress :=
  match left, BitReader.number 3 bits with
  | 0, _ => ⟨bits, bytes, some .short⟩
  | _, .error stop => ⟨bits, bytes, some stop⟩
  | left + 1, .ok (head, bits) =>
    let done := readBlock (head / 2) bits bytes
    if done.stop.isSome || head % 2 = 1 then done else readBlocks left done.bits done.bytes

/-- Reads deflated bytes. -/
def readDeflated (bits : List Bool) : Progress := readBlocks (bits.length + 1) bits []

/-! ## The frame -/

/-- The sum that guards bytes: the sum of the bytes, and the sum of those sums. -/
def guardSum (bytes : List UInt8) : Nat :=
  let (a, b) := bytes.foldl (fun (a, b) byte =>
    let a := (a + byte.toNat) % 65521
    (a, (b + a) % 65521)) (1, 0)
  65536 * b + a

/-- Reads a number of four bytes, the highest byte first. -/
def fourBytes : BitReader Nat := do
  BitReader.align
  let bytes ← (List.replicate 4 8).mapM BitReader.number
  return bytes.foldl (fun n b => 256 * n + b) 0

/-- Reads the head of a frame, which has to name this way of packing, and no common bytes that both
sides know. -/
def frameHead : BitReader Unit := do
  let method ← BitReader.number 8
  let flags ← BitReader.number 8
  if (256 * method + flags) % 31 ≠ 0 ∨ method % 16 ≠ 8 ∨ 7 < method / 16 then throw .broken
  if flags / 32 % 2 = 1 then
    let _ ← BitReader.number 32
    throw .broken

/-- Reads deflated bytes in a frame: after them, their sum has to be right. -/
def readFramed (bits : List Bool) : Progress :=
  match frameHead bits with
  | .error stop => ⟨bits, [], some stop⟩
  | .ok (_, bits) =>
    let done := readDeflated bits
    match done.stop, fourBytes done.bits with
    | none, .ok (sum, bits) =>
      if sum = guardSum done.bytes.reverse then { done with bits }
      else { done with stop := some .broken }
    | none, .error stop => { done with stop := some stop }
    | some _, _ => done

/-- The bytes that were read, unless what was read makes no sense. -/
def Progress.bytes? (p : Progress) : Option (List UInt8) :=
  if p.stop = some .broken then none else some p.bytes.reverse

/-- The bytes that deflated bytes stand for, in a frame or without one. -/
def inflate? (bytes : List UInt8) : Option (List UInt8) :=
  let bits := bitsOf bytes
  (readFramed bits).bytes?.or (readDeflated bits).bytes?

end TaskSieve.Packed
