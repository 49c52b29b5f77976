import TaskSieve.Filter.Operator
import TaskSieve.Number.Binary64

set_option autoImplicit false

/-! # Filter expressions

A filter expression is a condition, or two expressions joined by a combinator. A condition compares
a field with a literal, which is one value or a list of values. -/

namespace TaskSieve.Filter

/-- A single value in a filter. -/
inductive Scalar where
  | bool (value : Bool)
  | int (value : Int)
  | num (value : Binary64)
  | text (value : String)
deriving DecidableEq, Repr

/-- The value of a condition. -/
inductive Literal where
  | one (value : Scalar)
  | many (values : List Scalar)
deriving DecidableEq, Repr

/-- The values of a literal, a single value being a list of one. -/
def Literal.values : Literal → List Scalar
  | .one v => [v]
  | .many vs => vs

/-- A comparison of a field with a value. -/
structure Condition where
  field : Field
  operator : Operator
  value : Literal
deriving DecidableEq, Repr

/-- A filter expression. -/
inductive Expr where
  | leaf (condition : Condition)
  | node (combinator : Combinator) (left right : Expr)
deriving DecidableEq, Repr

namespace Expr

/-- The conditions of an expression from left to right. -/
def conditions : Expr → List Condition
  | leaf c => [c]
  | node _ l r => l.conditions ++ r.conditions

/-- The combinators of an expression from left to right. -/
def combinators : Expr → List Combinator
  | leaf _ => []
  | node c l r => l.combinators ++ c :: r.combinators

/-- Joins further conditions to an expression, one after another. -/
def join (first : Expr) (rest : List (Combinator × Condition)) : Expr :=
  rest.foldl (fun e step => node step.1 e (leaf step.2)) first

/-- Whether both combinators occur. -/
def isMixed (e : Expr) : Bool :=
  e.combinators.contains .and && e.combinators.contains .or

end Expr

end TaskSieve.Filter
