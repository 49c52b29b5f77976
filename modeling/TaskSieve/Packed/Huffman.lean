import TaskSieve.Packed.Bits

set_option autoImplicit false

/-! # Codes of varying length

A code gives each symbol a word of bits, of which none begins another one. It is determined by the
lengths of its words: shorter words come first, words of one length in the order of their symbols,
and each word is the next number after the one before it. -/

namespace TaskSieve.Packed

/-- A code: the symbols whose words have one bit, those whose words have two bits, and so on. -/
structure Code where
  levels : List (List Nat)
deriving DecidableEq, Repr

namespace Code

/-- The most bits of a word. -/
def longestWord : Nat := 15

/-- The symbols whose word has this length. -/
def level (lengths : List Nat) (length : Nat) : List Nat :=
  (List.range lengths.length).filter fun symbol => lengths[symbol]? == some length

/-- A list without the empty lists at its end. -/
def trim (levels : List (List Nat)) : List (List Nat) :=
  (levels.reverse.dropWhile List.isEmpty).reverse

/-- The code whose words have these lengths; symbols of length zero have none. -/
def ofLengths (lengths : List Nat) : Code :=
  ⟨trim ((List.range longestWord).map fun n => level lengths (n + 1))⟩

/-- How many words of the longest length are not taken; `none` if there are more words than the
lengths allow. -/
def room? (c : Code) : Option Nat :=
  c.levels.foldlM (fun room symbols =>
    if symbols.length ≤ 2 * room then some (2 * room - symbols.length) else none) 1

/-- Whether every sequence of bits begins with a word. -/
def isComplete (c : Code) : Bool := c.room? == some 0

/-- Whether a code can be read: it is complete, or all its words have one bit, or it has none. -/
def isUsable (c : Code) : Bool := c.isComplete || (c.levels.length ≤ 1 && c.room?.isSome)

/-- Reads a symbol. `word` is the word read so far and `first` the first one of its length. -/
def symbolFrom (word first : Nat) : List (List Nat) → BitReader Nat
  | [] => throw .broken
  | symbols :: longer => do
    let word := 2 * word + (← BitReader.bit).toNat
    match symbols[word - 2 * first]? with
    | some symbol => pure symbol
    | none => symbolFrom word (2 * first + symbols.length) longer

/-- Reads a symbol. Without any word, it takes a bit to see that there is none. -/
def symbol (c : Code) : BitReader Nat :=
  symbolFrom 0 0 (if c.levels.isEmpty then [[]] else c.levels)

end Code

end TaskSieve.Packed
