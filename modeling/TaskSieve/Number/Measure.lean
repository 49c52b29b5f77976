import TaskSieve.Number.Binary64

set_option autoImplicit false

/-! # Arithmetic in which time is measured

Clocks, waiting times and token counts are computed with sums, differences, products and quotients
and compared for order, and nothing else is asked of them. Everything that computes with time is
written for any such arithmetic, so that one definition runs on floating-point numbers and is
reasoned about over the exact rationals. -/

namespace TaskSieve

/-- Numbers that seconds, rates and token counts are computed in. -/
class Measure (α : Type) extends Add α, Sub α, Mul α, Div α, NatCast α, LT α where
  /-- Order can be tested. -/
  decidableLT : DecidableLT α

instance Measure.instDecidableLT {α : Type} [Measure α] : DecidableLT α := Measure.decidableLT

instance : Measure Binary64 where
  decidableLT := inferInstance

instance : Measure Rat where
  decidableLT := inferInstance

/-- The lesser of two numbers; the first one, if the second is not below it. -/
def Measure.least {α : Type} [Measure α] (x y : α) : α := if y < x then y else x

end TaskSieve
