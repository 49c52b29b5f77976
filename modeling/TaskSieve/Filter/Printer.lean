import TaskSieve.Filter.Literal
import TaskSieve.Number.Layout

set_option autoImplicit false

/-! # Writing filter expressions

The canonical text of an expression: names and operators in their usual spelling, single blanks
between tokens, and quotes around those texts only that would not be read back as the same bare
literal. Only chains can be written, since the language has no grouping. A right part that is
joined by the same combinator throughout is part of the chain, because joining is associative. What
has too many digits cannot be written: integers, and texts that would be read back as such. -/

namespace TaskSieve.Filter

/-- A character of a quoted literal. -/
def quotedLiteralChar : Char → List Char
  | '\\' => ['\\', '\\']
  | '"' => ['\\', '"']
  | '\n' => ['\\', 'n']
  | '\t' => ['\\', 't']
  | '\r' => ['\\', 'r']
  | c => [c]

/-- Whether a text is read back as text when it is written without quotes. A text without separators
is read as a bare literal to see that. -/
def isBareText (cs : List Char) : Except Overlong Bool :=
  if cs.isEmpty || cs.any isStop then .ok false
  else do
    match ← Scalar.readBare cs with
    | .text _ => .ok true
    | _ => .ok false

/-- A text in quotes. -/
def quotedLiteral (cs : List Char) : List Char :=
  '"' :: cs.flatMap quotedLiteralChar ++ ['"']

/-- A value as a literal. -/
def Scalar.print : Scalar → Except Overlong String
  | .bool b => .ok (if b then "true" else "false")
  | .int n => Overlong.guard (Overlong.ofInt? n) (integerText n)
  | .num x => .ok x.text
  | .text s => do
    let bare ← isBareText s.toList
    .ok (if bare then s else String.ofList (quotedLiteral s.toList))

/-- A value or a list of values as a literal. -/
def Literal.print : Literal → Except Overlong String
  | .one v => v.print
  | .many vs => do
    let texts ← vs.mapM Scalar.print
    .ok ("(" ++ ", ".intercalate texts ++ ")")

/-- The text of a condition. -/
def Condition.print (c : Condition) : Except Overlong String := do
  let value ← c.value.print
  .ok (c.field.name ++ " " ++ c.operator.text ++ " " ++ value)

/-- Why an expression cannot be written. -/
inductive PrintError where
  /-- It is not a chain. -/
  | grouping
  /-- An integer in it, or a text of digits, has too many of them. -/
  | overlong (found : Overlong)
deriving DecidableEq, Repr

/-- The error in words. -/
def PrintError.message : PrintError → String
  | grouping => "Expression requires grouping parentheses, which filters do not support"
  | overlong found => found.message

namespace Expr

/-- The chain of conditions that an expression is: the first one, and each later one with the
combinator before it. There is none if a right part is joined by the other combinator. -/
def chain? : Expr → Option (Condition × List (Combinator × Condition))
  | leaf c => some (c, [])
  | node c l r => do
    let (first, rest) ← l.chain?
    if r.combinators.all (· == c) then some (first, rest ++ r.conditions.map fun x => (c, x))
    else none

/-- The text of a chain. -/
def printChain (first : Condition) (rest : List (Combinator × Condition)) :
    Except Overlong String := do
  let start ← first.print
  rest.foldlM (fun text step => do
    let condition ← step.2.print
    .ok (text ++ " " ++ step.1.text ++ " " ++ condition)) start

/-- The text of an expression. Whether it is a chain is known before any of it is written. -/
def print (e : Expr) : Except PrintError String :=
  match e.chain? with
  | none => .error .grouping
  | some (first, rest) => (printChain first rest).mapError .overlong

end Expr

end TaskSieve.Filter
