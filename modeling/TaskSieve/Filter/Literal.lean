import TaskSieve.Filter.Expr
import TaskSieve.Number.Overlong
import TaskSieve.Text.Lower

set_option autoImplicit false

/-! # Bare literals

A literal without quotes is typed by its shape: digits with an optional minus are an integer, the
same with a fraction is a decimal, `true` and `false` in any letter case are truth values, and all
else is text. Digits of every script count. An integer of too many digits cannot be read. -/

namespace TaskSieve.Filter

/-- The characters that separate tokens. -/
def isGap (c : Char) : Bool := c == ' ' || c == '\t' || c == '\r' || c == '\n'

/-- The characters that open and close a quoted literal. -/
def isQuote (c : Char) : Bool := c == '"' || c == '\''

/-- The characters of symbolic operators. -/
def isSymbol (c : Char) : Bool := c == '<' || c == '>' || c == '=' || c == '!'

/-- The characters of punctuation and of combinators. -/
def isMark (c : Char) : Bool := c == '&' || c == '|' || c == '(' || c == ')' || c == ','

/-- The characters that end a bare literal. -/
def isStop (c : Char) : Bool := isGap c || isQuote c || isSymbol c || isMark c

namespace Scalar

/-- The number that a text of digits writes, with an optional minus and fraction, however many
digits there are. -/
def numberOfShape? (cs : List Char) : Option Scalar :=
  let (negative, body) := match cs with
    | '-' :: rest => (true, rest)
    | rest => (false, rest)
  let whole := body.takeWhile Text.isDigit
  if whole.isEmpty then none
  else match body.dropWhile Text.isDigit with
    | [] =>
      let n : Int := Text.digitsValue whole
      some (.int (if negative then -n else n))
    | '.' :: fraction =>
      if fraction ≠ [] ∧ fraction.all Text.isDigit then
        let d : Decimal := ⟨negative, Text.digitsValue (whole ++ fraction), -fraction.length⟩
        some (.num d.toBinary64)
      else none
    | _ => none

/-- The truth value that a text names, in any letter case. -/
def truthOf? (cs : List Char) : Option Bool :=
  let word := Text.lower cs
  if word = "true".toList then some true
  else if word = "false".toList then some false
  else none

/-- The value of a bare literal, if it can be read. -/
def ofBare (cs : List Char) : Scalar :=
  match numberOfShape? cs, truthOf? cs with
  | some n, _ => n
  | none, some b => .bool b
  | none, none => .text (String.ofList cs)

/-- What keeps a bare literal from being read: it is an integer of too many digits. -/
def overlongBare? (cs : List Char) : Option Overlong :=
  match numberOfShape? cs with
  | some (.int _) => Overlong.ofDigits? (cs.countP Text.isDigit)
  | _ => none

/-- Reads a bare literal. -/
def readBare (cs : List Char) : Except Overlong Scalar :=
  Overlong.guard (overlongBare? cs) (ofBare cs)

end Scalar

end TaskSieve.Filter
