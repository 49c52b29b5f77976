import TaskSieve.Number.Overlong

set_option autoImplicit false

/-! # Faults of a comparison

What can go wrong when a value is made comparable: an integer beyond the largest floating-point
number, a unit of time that no number of seconds is known for, an id that looks like digits but is
no number, and an integer of too many digits. -/

namespace TaskSieve.Filter

/-- Why a value cannot be made comparable. -/
inductive Fault where
  | numberTooLarge
  | unknownUnit (letter : Char)
  | malformedId (text : String)
  | overlong (found : Overlong)
deriving DecidableEq, Repr

end TaskSieve.Filter
