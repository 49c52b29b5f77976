import TaskSieve.Text.UpperTable

set_option autoImplicit false

/-! # Upper case

A text in capitals. Most letters have one capital; a few are written with several characters. -/

namespace TaskSieve.Text

/-- The capital form of a character; one without a capital stays. -/
def upperLetter (c : Char) : List Char :=
  let n := c.toNat
  if n < 0x80 then [c.toUpper]
  else match smallRanges.find? (·.contains n) with
    | some r => [Char.ofNat (n + r.shift).toNat]
    | none => ((longCapitals.lookup n).map (·.map Char.ofNat)).getD [c]

/-- The capital form of a text. -/
def upper (cs : List Char) : List Char := cs.flatMap upperLetter

/-- The capital form of a string. -/
def upperString (s : String) : String := String.ofList (upper s.toList)

end TaskSieve.Text
