import TaskSieve.Filter.Field

set_option autoImplicit false

/-! # Operators and combinators

The comparisons that a condition can make, and the two ways of joining conditions. -/

namespace TaskSieve.Filter

/-- A comparison. -/
inductive Operator where
  | eq
  | ne
  | gt
  | ge
  | lt
  | le
  | like
  | isIn
  | notIn
deriving DecidableEq, Repr

namespace Operator

/-- All operators. -/
def all : List Operator := [eq, ne, gt, ge, lt, le, like, isIn, notIn]

/-- The spelling of an operator. -/
def text : Operator → String
  | eq => "="
  | ne => "!="
  | gt => ">"
  | ge => ">="
  | lt => "<"
  | le => "<="
  | like => "like"
  | isIn => "in"
  | notIn => "not in"

/-- The operator with a spelling. -/
def ofText? (s : String) : Option Operator :=
  all.find? (·.text == s)

/-- The operators that are written with symbols. -/
def symbolic : List Operator := [eq, ne, gt, ge, lt, le]

/-- The operator that a run of symbols writes. -/
def ofSymbols? (cs : List Char) : Option Operator :=
  symbolic.find? (·.text.toList == cs)

/-- Whether an operator asks for membership in a list. -/
def isMembership : Operator → Bool
  | isIn | notIn => true
  | _ => false

/-- Whether an operator is meaningful for a kind of value: equality for every kind, order for
numbers and dates, likeness for strings and membership for arrays. -/
def suits : Operator → Kind → Bool
  | eq, _ | ne, _ => true
  | gt, k | ge, k | lt, k | le, k => k == .number || k == .date
  | like, k => k == .string
  | isIn, k | notIn, k => k == .array

end Operator

/-- A way of joining two expressions. -/
inductive Combinator where
  | and
  | or
deriving DecidableEq, Repr

namespace Combinator

/-- The spelling of a combinator. -/
def text : Combinator → String
  | and => "&&"
  | or => "||"

/-- The combinator with a spelling. -/
def ofText? (s : String) : Option Combinator :=
  if s = "&&" then some and else if s = "||" then some or else none

end Combinator

end TaskSieve.Filter
