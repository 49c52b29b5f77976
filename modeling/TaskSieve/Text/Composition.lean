import TaskSieve.Text.CompositionTable
import TaskSieve.Text.Rows

set_option autoImplicit false

/-! # Composed form

A letter with a mark may be written as one character or as two, and several marks in any order. A
text has one composed form: it is taken apart, marks of different classes are put in order, and what
can be put together is put together again. Syllables of Hangul are composed by counting. -/

namespace TaskSieve.Text

/-! ## Tables -/

/-- The characters that are made of two others, with these. -/
def compositions : List (Nat × Nat × Nat) :=
  (Entry.ofRows compositionRows).filterMap fun e => match e.listed with
    | [a, b] => some (e.first, a, b)
    | _ => none

/-- The marks that are put in order, with their classes. -/
def combiningEntries : List (Entry × Nat) :=
  (Entry.ofRows combiningRows).map fun e => (e, hexNumber e.note)

/-- The class of a mark; other characters have class 0. -/
def combiningClass (c : Char) : Nat :=
  if c.toNat < 0x300 then 0
  else ((combiningEntries.find? (·.1.covers c.toNat)).map (·.2)).getD 0

/-! ## Hangul -/

/-- The first leading consonant. -/
def firstLead : Nat := 0x1100

/-- The first vowel. -/
def firstVowel : Nat := 0x1161

/-- The place before the first trailing consonant. -/
def noTrail : Nat := 0x11A7

/-- The first syllable. -/
def firstSyllable : Nat := 0xAC00

/-- The syllable that a leading consonant and a vowel make, or a syllable and a trailing
consonant. -/
def syllable? (a b : Nat) : Option Nat :=
  let lead := a - firstLead
  let vowel := b - firstVowel
  let open? := a - firstSyllable
  let trail := b - noTrail
  if firstLead ≤ a && lead < 19 && firstVowel ≤ b && vowel < 21 then
    some (firstSyllable + (lead * 21 + vowel) * 28)
  else if firstSyllable ≤ a && open? < 11172 && open? % 28 == 0 && noTrail < b && trail < 28 then
    some (a + trail)
  else none

/-- The two parts of a syllable. -/
def syllableParts? (n : Nat) : Option (Nat × Nat) :=
  let place := n - firstSyllable
  if n < firstSyllable || 11172 ≤ place then none
  else if place % 28 = 0 then some (firstLead + place / 588, firstVowel + place / 28 % 21)
  else some (n - place % 28, noTrail + place % 28)

/-! ## Taking apart -/

/-- The two parts of a character, if it is made of two. -/
def parts? (c : Char) : Option (Char × Char) :=
  let n := c.toNat
  if n < 0xC0 then none
  else ((syllableParts? n).or (compositions.lookup n)).map fun (a, b) =>
    (Char.ofNat a, Char.ofNat b)

/-- A character taken apart in at most `steps` steps. -/
def takenApart (steps : Nat) (c : Char) : List Char :=
  match steps, parts? c with
  | steps + 1, some (a, b) => takenApart steps a ++ takenApart steps b
  | _, _ => [c]

/-- Puts a character before a text: a mark moves behind marks of lower classes. -/
def putMark (c : Char) : List Char → List Char
  | [] => [c]
  | d :: rest =>
    if 0 < combiningClass d ∧ combiningClass d < combiningClass c then d :: putMark c rest
    else c :: d :: rest

/-- A text taken apart, with its marks in order. No character takes more than four steps. -/
def decomposed (cs : List Char) : List Char := (cs.flatMap (takenApart 4)).foldr putMark []

/-! ## Putting together -/

/-- The character that two characters make. -/
def composed? (a b : Char) : Option Char :=
  ((syllable? a.toNat b.toNat).or
    ((compositions.find? fun (_, x, y) => x == a.toNat && y == b.toNat).map (·.1))).map Char.ofNat

/-- Puts a text together. `start` is the character to which marks may be added, `marks` are those
behind it that could not be added, last first. -/
def putTogether (start : Char) (marks : List Char) : List Char → List Char
  | [] => start :: marks.reverse
  | c :: rest =>
    let isNext := match marks with
      | [] => true
      | mark :: _ => combiningClass mark < combiningClass c
    match if isNext then composed? start c else none with
    | some start => putTogether start marks rest
    | none =>
      if combiningClass c = 0 then start :: marks.reverse ++ putTogether c [] rest
      else putTogether start (c :: marks) rest

/-- The composed form of a text. -/
def composed (cs : List Char) : List Char :=
  match decomposed cs with
  | [] => []
  | c :: rest => putTogether c [] rest

end TaskSieve.Text
