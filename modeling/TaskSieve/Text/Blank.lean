set_option autoImplicit false

/-! # Blank characters

The characters that separate words but print nothing: the tabs and line ends of ASCII, its four
information separators, and the spaces and line ends of the wider character set. Text is trimmed
of them before it is read as a number, a date or an id. -/

namespace TaskSieve.Text

/-- The blank characters: what separates words in a value that is read as a number or a date. -/
def isBlank (c : Char) : Bool :=
  let n := c.toNat
  (0x09 ≤ n && n ≤ 0x0D) || (0x1C ≤ n && n ≤ 0x20) || n == 0x85 || n == 0xA0 || n == 0x1680 ||
    (0x2000 ≤ n && n ≤ 0x200A) || n == 0x2028 || n == 0x2029 || n == 0x202F || n == 0x205F ||
    n == 0x3000

/-- White space proper: the blank characters without the four information separators. Payload
numbers are trimmed of these only. -/
def isSpace (c : Char) : Bool :=
  isBlank c && !(0x1C ≤ c.toNat && c.toNat ≤ 0x1F)

/-- The list without the elements at either end that satisfy `p`. -/
def trimWhile {α : Type} (p : α → Bool) (xs : List α) : List α :=
  ((xs.dropWhile p).reverse.dropWhile p).reverse

/-- A text without the blanks at either end. -/
def trim (cs : List Char) : List Char :=
  trimWhile isBlank cs

end TaskSieve.Text
