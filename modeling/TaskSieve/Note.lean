set_option autoImplicit false

/-! # Notes

While a tool runs it tells its caller what it does, line by line. -/

namespace TaskSieve

/-- A line told to the caller: a step that is taken, or an error. -/
structure Note where
  isError : Bool
  text : String
deriving DecidableEq, Repr

/-- The level of a note. -/
def Note.level (n : Note) : String := if n.isError then "error" else "info"

end TaskSieve
