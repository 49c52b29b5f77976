set_option autoImplicit false

/-! # Ranges of code points

A property of characters is given as a list of closed ranges of code points. -/

namespace TaskSieve.Text

/-- Whether a code point lies in one of the closed ranges. -/
def inRanges (ranges : List (Nat × Nat)) (n : Nat) : Bool :=
  ranges.any fun r => r.1 ≤ n && n ≤ r.2

end TaskSieve.Text
