import TaskSieve.Number.Binary64
import TaskSieve.Text.Blank
import TaskSieve.Text.Digit

set_option autoImplicit false

/-! # Decimal numbers

A decimal is a sign, a run of digits and a power of ten. This module reads decimals from text and
rounds them to floating point. -/

namespace TaskSieve

/-- The number `± digits * 10 ^ exponent`. -/
structure Decimal where
  negative : Bool
  digits : Nat
  exponent : Int
deriving DecidableEq, Repr

namespace Decimal

/-- How many decimal digits a natural has. -/
def width (n : Nat) : Nat := (Nat.toDigits 10 n).length

/-- The nearest floating-point number. A decimal with its leading digit beyond `10 ^ 310` is
infinite and one below `10 ^ -330` is zero, whatever its digits are. -/
def toBinary64 (d : Decimal) : Binary64 :=
  if d.digits = 0 then .finite d.negative 0 (-1074)
  else if 310 < width d.digits + d.exponent then .infinite d.negative
  else if width d.digits + d.exponent < -330 then .finite d.negative 0 (-1074)
  else if 0 ≤ d.exponent then .ofQuotient d.negative (d.digits * Nat.pow 10 d.exponent.toNat) 1
  else .ofQuotient d.negative d.digits (Nat.pow 10 (-d.exponent).toNat)

/-! ## Reading -/

/-- Splits off a sign: whether it is a minus, and what follows it. -/
def takeSign : List Char → Bool × List Char
  | '-' :: rest => (true, rest)
  | '+' :: rest => (false, rest)
  | rest => (false, rest)

/-- The integer that a sign and at least one digit write. -/
def readInteger? (cs : List Char) : Option Int :=
  let (negative, ds) := takeSign cs
  if ds ≠ [] ∧ ds.all Char.isDigit then
    let n : Int := Text.digitsValue ds
    some (if negative then -n else n)
  else none

/-- The power of ten after an `e`; no text at all is the power 0. -/
def readExponent? : List Char → Option Int
  | [] => some 0
  | c :: rest => if c = 'e' ∨ c = 'E' then readInteger? rest else none

/-- Reads `digits [. digits] [e power]`, with at least one digit before the power. -/
def readUnsigned? (negative : Bool) (cs : List Char) : Option Decimal := do
  let whole := cs.takeWhile Char.isDigit
  let rest := cs.dropWhile Char.isDigit
  let (fraction, rest) := match rest with
    | '.' :: tail => (tail.takeWhile Char.isDigit, tail.dropWhile Char.isDigit)
    | tail => ([], tail)
  if whole.isEmpty && fraction.isEmpty then none
  else
    let power ← readExponent? rest
    some ⟨negative, Text.digitsValue (whole ++ fraction), power - fraction.length⟩

/-- Reads a number in plain digits: a decimal with an optional sign and power of ten, or the name
of an infinity or of what is not a number, in any letter case. -/
def readNumber? (cs : List Char) : Option Binary64 :=
  let (negative, body) := takeSign cs
  let word := String.ofList (body.map Char.toLower)
  if word = "inf" ∨ word = "infinity" then some (.infinite negative)
  else if word = "nan" then some .nan
  else (readUnsigned? negative body).map toBinary64

/-! ## Free spelling

Values typed by hand may be surrounded by space, may use the digits of any script and may group
digits by single underscores. -/

/-- Removes underscores that stand between two digits; any other underscore is an error. -/
def ungroup? (cs : List Char) : Option (List Char) :=
  go '_' cs
where
  /-- `last` is the character before the rest of the text. -/
  go (last : Char) : List Char → Option (List Char)
    | [] => some []
    | '_' :: c :: rest =>
      if last.isDigit && c.isDigit then (c :: ·) <$> go c rest else none
    | ['_'] => none
    | c :: rest => (c :: ·) <$> go c rest

/-- Writes the digits of every script as ASCII digits; any other character beyond ASCII has no
place in a number. -/
def plainDigits? (cs : List Char) : Option (List Char) :=
  cs.mapM fun c =>
    match Text.digitValue? c with
    | some d => some (Nat.digitChar d)
    | none => if c.toNat < 0x80 then some c else none

/-- The text of a freely spelled number in plain digits. -/
def plain? (cs : List Char) : Option (List Char) :=
  (plainDigits? (Text.trimWhile Text.isSpace cs)).bind ungroup?

/-- The integer that a freely spelled text writes. -/
def integerOf? (cs : List Char) : Option Int :=
  (plain? cs).bind readInteger?

/-- The number that a freely spelled text writes. -/
def numberOf? (cs : List Char) : Option Binary64 :=
  (plain? cs).bind readNumber?

end Decimal

end TaskSieve
