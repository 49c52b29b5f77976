import TaskSieve.Datum.Basic

set_option autoImplicit false

/-! # Answers

Every tool answers with a record that says whether it succeeded, and a message for people. A failure
also names its kind, for programs. -/

namespace TaskSieve.Answer

/-- The answer of a tool that did what it was asked. -/
def success (message : String) (fields : Fields) : Fields :=
  [("success", .bool true), ("message", .text message)] ++ fields

/-- The answer of a tool that could not do what it was asked. -/
def failure (kind message : String) (details : Fields) : Fields :=
  [("success", .bool false), ("error", .text kind), ("message", .text message)] ++ details

end TaskSieve.Answer
