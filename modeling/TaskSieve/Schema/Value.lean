import TaskSieve.Datum.Basic
import TaskSieve.Number.Decimal
import TaskSieve.Schema.Issue

set_option autoImplicit false

/-! # Values in a schema

How a value is read where a text, a number or a truth value is wanted. Reading is lenient where no
information is lost: integral numbers and digits in a text are integers, and the usual words are
truth values. -/

namespace TaskSieve.Schema

open Checked (complain)

/-- Reads a text; no other value is one. -/
def text : Datum → Checked String
  | .text s => .valid s
  | _ => complain .notText

/-- Reads a text that is not empty. -/
def filledText (d : Datum) : Checked String :=
  (text d).andThen fun s => if s = "" then complain .textTooShort else .valid s

/-! ## Integers -/

/-- Removes a leading plus sign. -/
def dropPlus : List Char → List Char
  | '+' :: '-' :: _ => []
  | '+' :: rest => rest
  | cs => cs

/-- Removes leading zeros, and underscores among them, but keeps the last digit before a point or
the end. Another digit or a minus sign ends them. -/
def dropZeros (last : Char) : List Char → Option (List Char)
  | [] => some [last]
  | c :: rest =>
    if c = '0' ∨ c = '_' then dropZeros c rest
    else if c.isDigit ∨ c = '-' then some (c :: rest)
    else if c = '.' then some (last :: c :: rest)
    else none

/-- Removes a point that is followed by zeros only, at least one. -/
def dropPointZeros (cs : List Char) : List Char :=
  match cs.dropWhile (· != '.') with
  | [] => cs
  | [_] => cs
  | _ :: zeros => if zeros.all (· == '0') then cs.takeWhile (· != '.') else cs

/-- Removes single underscores inside a number; two in a row, or one at an end, stay. -/
def dropUnderscores (cs : List Char) : List Char :=
  let pairs := cs.zip (cs.drop 1)
  if cs.head? = some '_' ∨ cs.getLast? = some '_' ∨ pairs.any (· == ('_', '_')) then cs
  else cs.filter (· != '_')

/-- The digits of an integer, with a minus sign, that a text writes: leading zeros, a plus sign,
single underscores, a fraction of zeros, and white space around it do not count. -/
def integerDigits? (cs : List Char) : Option (List Char) :=
  match dropPlus (Text.trimWhile Text.isSpace cs) with
  | '0' :: rest => (dropZeros '0' rest).bind finish
  | cs => finish cs
where
  /-- What is left after the leading zeros; no underscore stands right after a minus sign. -/
  finish (cs : List Char) : Option (List Char) :=
    match cs with
    | '-' :: '_' :: _ => none
    | c :: _ => if c = '-' ∨ c.isDigit then some (dropUnderscores (dropPointZeros cs)) else none
    | [] => none

/-- Reads the integer that a text writes. -/
def integerOfText (cs : List Char) : Checked Int :=
  match (integerDigits? cs).bind fun ds => (Decimal.readInteger? ds).map fun n => (ds, n) with
  | none => complain .integerForm
  | some (ds, n) =>
    if ds.countP Char.isDigit ≤ digitLimit then .valid n else complain .integerSize

/-- The magnitude that the integers of 64 bits stay below, and floating-point numbers that are taken
for integers. -/
def integerLimit : Int := 9223372036854775808

/-- Reads an integer. -/
def integer : Datum → Checked Int
  | .bool b => .valid (if b then 1 else 0)
  | .int n => .valid n
  | .num x =>
    if !x.isFinite then complain .notFinite
    else match x.toInt? with
      | none => complain .fractional
      | some n => if -integerLimit < n ∧ n < integerLimit then .valid n else complain .integerSize
  | .text s => integerOfText s.toList
  | _ => complain .notInteger

/-- Reads an integer that is not below a bound. -/
def integerFrom (low : Int) (d : Datum) : Checked Int :=
  (integer d).andThen fun n => if n < low then complain .tooSmall else .valid n

/-- Reads an integer within bounds. -/
def integerWithin (low high : Int) (d : Datum) : Checked Int :=
  (integerFrom low d).andThen fun n => if high < n then complain .tooLarge else .valid n

/-- Reads a positive integer up to a bound. -/
def positiveUpTo (high : Int) (d : Datum) : Checked { n : Nat // 0 < n } :=
  (integer d).andThen fun n =>
    if h : n ≤ 0 then complain .tooSmall
    else if high < n then complain .tooLarge
    else .valid ⟨n.toNat, by omega⟩

/-! ## Numbers -/

/-- The number that a text writes, either with white space around it or with single underscores in
it. -/
def numberText? (cs : List Char) : Option Binary64 :=
  (Decimal.readNumber? (Text.trimWhile Text.isSpace cs)).or
    (Decimal.readNumber? (dropUnderscores cs))

/-- Reads a number. -/
def number : Datum → Checked Binary64
  | .bool b => .valid (if b then 1 else 0)
  | .int n =>
    match Binary64.ofInt? n with
    | some x => .valid x
    | none => complain .notNumber
  | .num x => .valid x
  | .text s =>
    match numberText? s.toList with
    | some x => .valid x
    | none => complain .numberForm
  | _ => complain .notNumber

/-- Reads a number within bounds. -/
def numberWithin (low high : Binary64) (d : Datum) : Checked Binary64 :=
  (number d).andThen fun x =>
    if high < x then complain .tooLarge else if x < low then complain .tooSmall else .valid x

/-! ## Truth values -/

/-- The words for truth. -/
def trueWords : List String := ["1", "on", "t", "true", "y", "yes"]

/-- The words for falsehood. -/
def falseWords : List String := ["0", "off", "f", "false", "n", "no"]

/-- The truth value of an integer: 0 or 1, written in at most 64 bits. -/
def truthOfInt (n : Int) : Checked Bool :=
  if n = 0 then .valid false
  else if n = 1 then .valid true
  else if n < -integerLimit ∨ integerLimit ≤ n then complain .notTruth
  else complain .truthForm

/-- Reads a truth value. -/
def truth : Datum → Checked Bool
  | .bool b => .valid b
  | .int n => truthOfInt n
  | .num x =>
    match x.toInt? with
    | some n => if n = -integerLimit then complain .notTruth else truthOfInt n
    | none => complain .notTruth
  | .text s =>
    let word := String.ofList (s.toList.map Char.toLower)
    if trueWords.contains word then .valid true
    else if falseWords.contains word then .valid false
    else complain .truthForm
  | _ => complain .notTruth

/-! ## Lists, records and fields -/

variable {α : Type}

/-- Reads a list, every item with the same reader. -/
def list (item : Datum → Checked α) : Datum → Checked (List α)
  | .list items => .each item items
  | _ => complain .notList

/-- Reads a value that may be null. -/
def nullable (item : Datum → Checked α) : Datum → Checked (Option α)
  | .null => .valid none
  | d => (item d).map some

/-- Reads a record. -/
def record (fields : Fields → Checked α) : Datum → Checked α
  | .record fs => fields fs
  | _ => complain .notRecord

/-- Reads a field that has to be present. -/
def required (fields : Fields) (key : String) (item : Datum → Checked α) : Checked α :=
  match fields.get? key with
  | some d => (item d).inside key
  | none => .invalid [⟨[key], .missing⟩]

/-- Reads a field that has a default. -/
def optional (fields : Fields) (key : String) (default : α) (item : Datum → Checked α) :
    Checked α :=
  match fields.get? key with
  | some d => (item d).inside key
  | none => .valid default

/-- The fields whose keys are not among those of a schema. -/
def extras (known : List String) (fields : Fields) : Fields :=
  fields.filter fun f => !known.contains f.1

/-- Refuses every field whose key is not among those of a schema. -/
def onlyKeys (known : List String) (fields : Fields) : Checked Unit :=
  match extras known fields with
  | [] => .valid ()
  | more => .invalid (more.map fun f => ⟨[f.1], .unknownKey⟩)

end TaskSieve.Schema
