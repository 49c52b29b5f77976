import TaskSieve.Text.Rows
import TaskSieve.Text.ScriptTable

set_option autoImplicit false

/-! # Scripts

Words are written in letters, marks, digits and a few signs that only some scripts know. Such a sign
has its place only in words of its script. -/

namespace TaskSieve.Text

/-- The characters that do not write words. -/
def symbolEntries : List Entry := Entry.ofRows symbolRows

/-- The characters of the Greek script. -/
def greekEntries : List Entry := Entry.ofRows greekRows

/-- The characters of the Hebrew script. -/
def hebrewEntries : List Entry := Entry.ofRows hebrewRows

/-- The characters of the scripts of Japanese. -/
def japaneseEntries : List Entry := Entry.ofRows japaneseRows

/-- Whether a character does not write words. -/
def isSymbol (c : Char) : Bool := Entry.mention symbolEntries c

/-- Digits of Arabic. -/
def isArabicDigit (c : Char) : Bool := 0x660 ≤ c.toNat && c.toNat ≤ 0x669

/-- Digits of Persian and Urdu, which look like those of Arabic. -/
def isPersianDigit (c : Char) : Bool := 0x6F0 ≤ c.toNat && c.toNat ≤ 0x6F9

/-- Whether a sign of one script has its place in a word, between these neighbours. -/
def isSignAt (word : List Char) (before : Option Char) (c : Char) (after : Option Char) : Bool :=
  if c = '·' then before == some 'l' && after == some 'l'
  else if c = '͵' then after.any (Entry.mention greekEntries)
  else if c = '׳' ∨ c = '״' then before.any (Entry.mention hebrewEntries)
  else if c = '・' then word.any (Entry.mention japaneseEntries)
  else if isArabicDigit c then !word.any isPersianDigit
  else if isPersianDigit c then !word.any isArabicDigit
  else true

/-- Whether every sign of one script has its place in the rest of a word. -/
def hasSignsInPlace (word : List Char) (before : Option Char) : List Char → Bool
  | [] => true
  | c :: rest => isSignAt word before c rest.head? && hasSignsInPlace word (some c) rest

/-- Whether a text writes a word: it has no symbols, and every sign has its place. -/
def isWord (cs : List Char) : Bool := cs.all (!isSymbol ·) && hasSignsInPlace cs none cs

end TaskSieve.Text
