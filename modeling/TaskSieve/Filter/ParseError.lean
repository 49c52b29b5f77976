import TaskSieve.Datum.Basic
import TaskSieve.Filter.Operator
import TaskSieve.Number.Layout

set_option autoImplicit false

/-! # Parse errors

What can be wrong with a filter text, and where. -/

namespace TaskSieve.Filter

/-- What the grammar asks for at a place in the text. -/
inductive Wanted where
  | combinator
  | field
  | operator
  | value
  | item
  | listEnd
  | ending
deriving DecidableEq, Repr

/-- The tokens that satisfy the grammar at a place, in the order of their characters. -/
def Wanted.texts : Wanted → List String
  | .combinator => ["&&", "||"]
  | .field => ["field"]
  | .operator => ["operator"]
  | .value => ["(", "value"]
  | .item => ["value"]
  | .listEnd => [")", ","]
  | .ending => ["&&", "end of input", "||"]

/-- What is wrong with a filter text. Of an unexpected token the text is kept, which is empty at
the end of the input. -/
inductive ParseFault where
  | empty
  | unexpected (found : String) (wanted : Wanted)
  | unterminated (quote : Char)
  | unknownField (name : String)
  | unknownOperator (text : String)
deriving DecidableEq, Repr

/-- A fault and the number of characters before it. -/
structure ParseError where
  fault : ParseFault
  position : Nat
deriving DecidableEq, Repr

namespace ParseFault

/-- The name of a fault in answers. -/
def name : ParseFault → String
  | empty => "EmptyExpressionError"
  | unexpected _ _ => "UnexpectedTokenError"
  | unterminated _ => "UnterminatedLiteralError"
  | unknownField _ => "UnknownFieldError"
  | unknownOperator _ => "UnknownOperatorError"

/-- The token that is at fault. -/
def found : ParseFault → String
  | empty => ""
  | unexpected found _ => found
  | unterminated quote => String.singleton quote
  | unknownField name => name
  | unknownOperator text => text

/-- The names of all fields in the order of their characters. -/
def knownFields : List String :=
  ["assignees", "created", "description", "done", "dueDate", "labels", "percentDone", "priority",
    "title", "updated"]

/-- The spellings of all operators in the order of their characters. -/
def knownOperators : List String :=
  ["!=", "<", "<=", "=", ">", ">=", "in", "like", "not in"]

/-- What could have stood there instead. -/
def expected : ParseFault → List String
  | empty => []
  | unexpected _ wanted => wanted.texts
  | unterminated quote => [String.singleton quote]
  | unknownField _ => knownFields
  | unknownOperator _ => knownOperators

/-- The fault in words, without its place. -/
def summary : ParseFault → String
  | empty => "Filter expression is empty"
  | unexpected found wanted =>
    "Unexpected " ++ (if found = "" then "end of input" else "'" ++ found ++ "'") ++
      ", expected one of: " ++ ", ".intercalate wanted.texts
  | unterminated quote => "Unterminated string literal starting with " ++ String.singleton quote
  | unknownField name => "Unknown field '" ++ name ++ "'"
  | unknownOperator text => "Unknown operator '" ++ text ++ "'"

end ParseFault

namespace ParseError

/-- The fault and its place in words. -/
def message (e : ParseError) : String :=
  e.fault.summary ++ " at position " ++ naturalText e.position

/-- The parts of an error as they are shown in answers. -/
def toFields (e : ParseError) : Fields :=
  [("type", .text e.fault.name), ("message", .text e.message), ("position", .int e.position),
    ("found", .text e.fault.found), ("expected", .texts e.fault.expected)]

end ParseError

end TaskSieve.Filter
