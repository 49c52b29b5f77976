import TaskSieve.Text.Printable

set_option autoImplicit false

/-! # Quoted texts

How a text is shown inside a message or inside a list: in single quotes, or in double quotes when
it holds single quotes only; backslashes, the enclosing quote and line controls are escaped, and
characters that do not print are shown by number. -/

namespace TaskSieve.Text

/-- The lower-case hexadecimal digits of a number, at least `width` of them. -/
def hex (width n : Nat) : List Char :=
  let digits := Nat.toDigits 16 n
  List.replicate (width - digits.length) '0' ++ digits

/-- One character of a quoted text. -/
def quotedChar (quote c : Char) : List Char :=
  if c = quote ∨ c = '\\' then ['\\', c]
  else if c = '\n' then ['\\', 'n']
  else if c = '\r' then ['\\', 'r']
  else if c = '\t' then ['\\', 't']
  else if isPrintable c then [c]
  else if c.toNat ≤ 0xFF then '\\' :: 'x' :: hex 2 c.toNat
  else if c.toNat ≤ 0xFFFF then '\\' :: 'u' :: hex 4 c.toNat
  else '\\' :: 'U' :: hex 8 c.toNat

/-- The quote that encloses a text: the double one only if the text holds single quotes and no
double one. -/
def enclosingQuote (s : String) : Char :=
  if s.toList.contains '\'' && !s.toList.contains '"' then '"' else '\''

/-- A text in quotes. -/
def quoted (s : String) : String :=
  let q := enclosingQuote s
  String.ofList (q :: s.toList.flatMap (quotedChar q) ++ [q])

end TaskSieve.Text
