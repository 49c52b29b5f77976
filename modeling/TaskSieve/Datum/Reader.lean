import TaskSieve.Datum.Basic
import TaskSieve.Number.Decimal

set_option autoImplicit false

/-! # Reading JSON

Saved files and response bodies are JSON texts. Besides the standard values, the names `NaN`,
`Infinity` and `-Infinity` are numbers. A number with neither fraction nor power is an integer, and
reading ends at one of too many digits, whatever comes behind it. If a key occurs twice in an
object, the last value counts, at the first place. -/

namespace TaskSieve.Datum

/-- Why a JSON text cannot be read. -/
inductive ReadFault where
  | malformed
  | overlong (found : Overlong)
deriving DecidableEq, Repr

/-- Something that the text has to have. -/
def ReadFault.wanted {α : Type} : Option α → Except ReadFault α
  | some a => .ok a
  | none => .error .malformed

end TaskSieve.Datum

namespace TaskSieve.Datum.Reader

/-- The characters that may stand between values. -/
def isGap (c : Char) : Bool := c == ' ' || c == '\t' || c == '\n' || c == '\r'

/-- A text without leading gaps. -/
def skipGaps (cs : List Char) : List Char := cs.dropWhile isGap

/-! ## Texts -/

/-- The value of a hexadecimal digit. -/
def hexDigit? (c : Char) : Option Nat :=
  if c.isDigit then some (c.toNat - 0x30)
  else if 'a' ≤ c ∧ c ≤ 'f' then some (c.toNat - 0x61 + 10)
  else if 'A' ≤ c ∧ c ≤ 'F' then some (c.toNat - 0x41 + 10)
  else none

/-- The value of four hexadecimal digits. -/
def hexValue? (a b c d : Char) : Option Nat := do
  let a ← hexDigit? a
  let b ← hexDigit? b
  let c ← hexDigit? c
  let d ← hexDigit? d
  some (((a * 16 + b) * 16 + c) * 16 + d)

/-- Whether a code unit is the first of a pair. -/
def isHighUnit (n : Nat) : Bool := 0xD800 ≤ n && n < 0xDC00

/-- Whether a code unit is the second of a pair. -/
def isLowUnit (n : Nat) : Bool := 0xDC00 ≤ n && n < 0xE000

/-- The character of a code unit that stands alone; half of a pair is a replacement character. -/
def unitChar (n : Nat) : Char :=
  if isHighUnit n || isLowUnit n then '\uFFFD' else Char.ofNat n

/-- The character of a pair of code units. -/
def pairChar (high low : Nat) : Char :=
  Char.ofNat (0x10000 + (high - 0xD800) * 0x400 + (low - 0xDC00))

/-- The character that a one-letter escape stands for. -/
def escape? : Char → Option Char
  | '"' => some '"'
  | '\\' => some '\\'
  | '/' => some '/'
  | 'b' => some '\x08'
  | 'f' => some '\x0c'
  | 'n' => some '\n'
  | 'r' => some '\r'
  | 't' => some '\t'
  | _ => none

/-- Reads the rest of a text after its opening quote. -/
def string? : List Char → Option (List Char × List Char)
  | [] => none
  | '"' :: rest => some ([], rest)
  | '\\' :: 'u' :: a :: b :: c :: d :: rest => do
    let unit ← hexValue? a b c d
    let single : Option (List Char × List Char) := do
      let (tail, rest) ← string? rest
      some (unitChar unit :: tail, rest)
    match rest with
    | '\\' :: 'u' :: a :: b :: c :: d :: rest =>
      match hexValue? a b c d with
      | some low =>
        if isHighUnit unit && isLowUnit low then
          let (tail, rest) ← string? rest
          some (pairChar unit low :: tail, rest)
        else single
      | none => single
    | _ => single
  | '\\' :: c :: rest => do
    let c ← escape? c
    let (tail, rest) ← string? rest
    some (c :: tail, rest)
  | c :: rest => do
    if c.toNat < 0x20 ∨ c = '\\' then none
    else
      let (tail, rest) ← string? rest
      some (c :: tail, rest)

/-! ## Numbers -/

/-- Splits off a fraction: a point and at least one digit. -/
def takeFraction : List Char → List Char × List Char
  | '.' :: rest =>
    let ds := rest.takeWhile Char.isDigit
    if ds.isEmpty then ([], '.' :: rest) else (ds, rest.dropWhile Char.isDigit)
  | rest => ([], rest)

/-- Splits off a power of ten: a letter, an optional sign and at least one digit. -/
def takePower (cs : List Char) : Option Int × List Char :=
  match cs with
  | [] => (none, [])
  | c :: rest =>
    let (negative, ds) := Decimal.takeSign rest
    let shown := ds.takeWhile Char.isDigit
    if (c = 'e' ∨ c = 'E') ∧ shown ≠ [] then
      let power : Int := Text.digitsValue shown
      (some (if negative then -power else power), ds.dropWhile Char.isDigit)
    else (none, cs)

/-- Reads a number after its sign. -/
def number (negative : Bool) (cs : List Char) : Except ReadFault (Datum × List Char) :=
  let digits := cs.takeWhile Char.isDigit
  let (whole, rest) := match digits with
    | '0' :: _ => (['0'], cs.drop 1)
    | ds => (ds, cs.dropWhile Char.isDigit)
  if whole.isEmpty then .error .malformed
  else
    let (fraction, rest) := takeFraction rest
    let (power, rest) := takePower rest
    if fraction.isEmpty && power.isNone then
      let n : Int := Text.digitsValue whole
      let taken := (Datum.int (if negative then -n else n), rest)
      (Overlong.guard (Overlong.ofDigits? whole.length) taken).mapError .overlong
    else
      let decimal : Decimal :=
        ⟨negative, Text.digitsValue (whole ++ fraction), power.getD 0 - fraction.length⟩
      .ok (.num decimal.toBinary64, rest)

/-- Splits off a word, if the text starts with it. -/
def word? (word : String) (cs : List Char) : Option (List Char) :=
  if word.toList.isPrefixOf cs then some (cs.drop word.length) else none

/-- Reads a name or a number. -/
def atom (cs : List Char) : Except ReadFault (Datum × List Char) :=
  let named (word : String) (d : Datum) : Except ReadFault (Datum × List Char) :=
    ReadFault.wanted ((word? word cs).map fun rest => (d, rest))
  match cs with
  | 'n' :: _ => named "null" .null
  | 't' :: _ => named "true" (.bool true)
  | 'f' :: _ => named "false" (.bool false)
  | 'N' :: _ => named "NaN" (.num .nan)
  | 'I' :: _ => named "Infinity" (.num (.infinite false))
  | '-' :: 'I' :: _ => named "-Infinity" (.num (.infinite true))
  | '-' :: rest => number true rest
  | _ => number false cs

/-! ## Values -/

mutual

/-- Reads a value at the start of a text. `fuel` bounds the steps and is never short of them when
it exceeds the length of the text. -/
def value : (fuel : Nat) → List Char → Except ReadFault (Datum × List Char)
  | 0, _ => .error .malformed
  | _ + 1, '"' :: rest =>
    ReadFault.wanted ((string? rest).map fun (s, rest) => (.text (String.ofList s), rest))
  | fuel + 1, '[' :: rest =>
    match skipGaps rest with
    | ']' :: rest => .ok (.list [], rest)
    | rest => (items fuel rest).map fun (items, rest) => (.list items, rest)
  | fuel + 1, '\x7b' :: rest =>
    match skipGaps rest with
    | '\x7d' :: rest => .ok (.record [], rest)
    | rest => (entries fuel rest).map fun (entries, rest) => (.record (Fields.ofList entries), rest)
  | _ + 1, cs => atom cs

/-- Reads the items of a list up to its closing bracket. -/
def items : (fuel : Nat) → List Char → Except ReadFault (List Datum × List Char)
  | 0, _ => .error .malformed
  | fuel + 1, cs => do
    let (item, rest) ← value fuel cs
    match skipGaps rest with
    | ']' :: rest => .ok ([item], rest)
    | ',' :: rest => do
      let (items, rest) ← items fuel (skipGaps rest)
      .ok (item :: items, rest)
    | _ => .error .malformed

/-- Reads the entries of an object up to its closing brace. -/
def entries : (fuel : Nat) → List Char → Except ReadFault (List (String × Datum) × List Char)
  | 0, _ => .error .malformed
  | fuel + 1, cs => do
    let '"' :: rest := cs | .error .malformed
    let (key, rest) ← ReadFault.wanted (string? rest)
    let ':' :: rest := skipGaps rest | .error .malformed
    let (item, rest) ← value fuel (skipGaps rest)
    let entry := (String.ofList key, item)
    match skipGaps rest with
    | '\x7d' :: rest => .ok ([entry], rest)
    | ',' :: rest => do
      let (entries, rest) ← entries fuel (skipGaps rest)
      .ok (entry :: entries, rest)
    | _ => .error .malformed

end

end TaskSieve.Datum.Reader

namespace TaskSieve.Datum

/-- The value that a JSON text writes. -/
def read (source : String) : Except ReadFault Datum := do
  let cs := Reader.skipGaps source.toList
  let (d, rest) ← Reader.value (2 * cs.length + 2) cs
  if (Reader.skipGaps rest).isEmpty then .ok d else .error .malformed

end TaskSieve.Datum
