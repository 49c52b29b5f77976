import TaskSieve.Text.CaseTable

set_option autoImplicit false

/-! # Lower case

Texts are compared without regard to case by comparing their lower-case forms. Every capital has
one lower-case letter, with two exceptions: the dotted capital I becomes an i and a combining dot,
and a sigma that ends a word takes its final form. -/

namespace TaskSieve.Text

/-- The lower-case letter of a character that has exactly one; any other character stays. -/
def lowerLetter (c : Char) : Char :=
  let n := c.toNat
  if n < 0x80 then c.toLower
  else match capitalRanges.find? (·.contains n) with
    | some r => Char.ofNat (n + r.shift).toNat
    | none => c

/-- Whether a sigma ends a word: its nearest neighbour before it, marks skipped, is a letter with
a case, and the nearest one after it is not. The characters before it come nearest first. -/
def endsWord (before after : List Char) : Bool :=
  (before.dropWhile isCaseIgnorable).head?.any isCased &&
    !(after.dropWhile isCaseIgnorable).head?.any isCased

/-- Lower-cases what follows the characters `before`, which come nearest first. -/
def lowerAfter (before : List Char) : List Char → List Char
  | [] => []
  | c :: rest =>
    let head :=
      if c = 'Σ' then [if endsWord before rest then 'ς' else 'σ']
      else if c = 'İ' then ['i', '\u0307']
      else [lowerLetter c]
    head ++ lowerAfter (c :: before) rest

/-- The lower-case form of a text. -/
def lower (cs : List Char) : List Char :=
  lowerAfter [] cs

/-- The lower-case form of a string. -/
def lowerString (s : String) : String :=
  String.ofList (lower s.toList)

end TaskSieve.Text
