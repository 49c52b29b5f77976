import TaskSieve.Number.Decimal
import TaskSieve.Number.Layout

set_option autoImplicit false

/-! # Integers of too many digits

An integer is read from a text and written to one only up to a number of decimal digits. The digits
of a text count as they stand there, leading zeros included. Floating-point numbers have no such
limit. -/

namespace TaskSieve

/-- The most digits of an integer that is read or written. -/
def digitLimit : Nat := 4300

/-- Why an integer cannot be read or written. -/
inductive Overlong where
  /-- A text has so many digits. -/
  | text (digits : Nat)
  /-- The text of an integer would have too many digits. -/
  | integer
deriving DecidableEq, Repr

namespace Overlong

/-- The error in words. -/
def message (o : Overlong) : String :=
  let found := match o with
    | text digits => ": value has " ++ naturalText digits ++ " digits"
    | integer => ""
  "Exceeds the limit (" ++ naturalText digitLimit ++ " digits) for integer string conversion" ++
    found ++ "; use sys.set_int_max_str_digits() to increase the limit"

/-- What keeps a text of so many digits from being read as an integer. -/
def ofDigits? (digits : Nat) : Option Overlong :=
  if digits ≤ digitLimit then none else some (text digits)

/-- What keeps an integer from being written. -/
def ofInt? (n : Int) : Option Overlong :=
  if Decimal.width n.natAbs ≤ digitLimit then none else some integer

/-- A result that is only there if nothing has too many digits. -/
def guard {α : Type} (found : Option Overlong) (result : α) : Except Overlong α :=
  match found with
  | none => .ok result
  | some o => .error o

theorem ofDigits?_eq_none_iff {digits : Nat} : ofDigits? digits = none ↔ digits ≤ digitLimit := by
  simp [ofDigits?]

theorem ofDigits?_eq_some_iff {digits : Nat} {o : Overlong} :
    ofDigits? digits = some o ↔ digitLimit < digits ∧ o = text digits := by
  rw [ofDigits?]
  split
  · next h => simp [Nat.not_lt.2 h]
  · next h => simp [Nat.lt_of_not_le h, eq_comm]

theorem ofInt?_eq_none_iff {n : Int} : ofInt? n = none ↔ Decimal.width n.natAbs ≤ digitLimit := by
  simp [ofInt?]

theorem ofInt?_eq_some_iff {n : Int} {o : Overlong} :
    ofInt? n = some o ↔ digitLimit < Decimal.width n.natAbs ∧ o = integer := by
  rw [ofInt?]
  split
  · next h => simp [Nat.not_lt.2 h]
  · next h => simp [Nat.lt_of_not_le h, eq_comm]

theorem guard_eq_ok_iff {α : Type} {found : Option Overlong} {a b : α} :
    guard found a = .ok b ↔ found = none ∧ a = b := by
  cases found <;> simp [guard]

theorem guard_eq_error_iff {α : Type} {found : Option Overlong} {a : α} {o : Overlong} :
    guard found a = .error o ↔ found = some o := by
  cases found <;> simp [guard]

end Overlong

end TaskSieve
