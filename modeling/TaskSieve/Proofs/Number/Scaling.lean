import Mathlib.Algebra.Order.Ring.Unbundled.Rat
import TaskSieve.Number.Decimal

set_option autoImplicit false

/-! # Numbers that stay numbers

Scaling a percentage and rounding it to places keep it a number, and any two numbers have an
order. Rounding keeps the sign, and so a product of numbers without a minus has none. -/

namespace TaskSieve.Binary64

theorem bounded_ne_nan (negative : Bool) (m : Nat) (e : Int) : bounded negative m e ≠ .nan := by
  unfold bounded
  split <;> simp

theorem ofQuotient_ne_nan (negative : Bool) (num den : Nat) :
    ofQuotient negative num den ≠ .nan := by
  unfold ofQuotient
  split
  · simp
  · dsimp only
    split
    · exact bounded_ne_nan _ _ _
    · exact bounded_ne_nan _ _ _

/-- A number rounded to places stays a number. -/
theorem roundPlaces_ne_nan {x : Binary64} (h : x ≠ .nan) (places : Nat) :
    x.roundPlaces places ≠ .nan := by
  cases x with
  | nan => exact absurd rfl h
  | infinite _ => simp [roundPlaces]
  | finite _ _ _ => exact ofQuotient_ne_nan _ _ _

/-- A number times a hundred stays a number. -/
theorem mul_hundred_ne_nan {x : Binary64} (h : x ≠ .nan) : x * 100 ≠ .nan := by
  have hundred : (100 : Binary64) = .finite false 7036874417766400 (-46) := by decide
  rw [hundred]
  cases x with
  | nan => exact absurd rfl h
  | infinite _ => simp [HMul.hMul, Mul.mul, mul]
  | finite _ _ _ => exact ofQuotient_ne_nan _ _ _

/-- Two numbers have an order. -/
theorem exists_compare? {x y : Binary64} (hx : x ≠ .nan) (hy : y ≠ .nan) :
    ∃ o, compare? x y = some o := by
  cases x <;> cases y <;> simp_all [compare?]

/-! ## Signs -/

theorem isNegative_bounded (negative : Bool) (m : Nat) (e : Int) :
    (bounded negative m e).isNegative = negative := by
  unfold bounded
  split <;> rfl

theorem isNegative_ofQuotient (negative : Bool) (num den : Nat) :
    (ofQuotient negative num den).isNegative = negative := by
  unfold ofQuotient
  split
  · rfl
  · dsimp only
    split
    · exact isNegative_bounded _ _ _
    · exact isNegative_bounded _ _ _

/-- A product without a minus on either side has none. -/
theorem isNegative_mul {x y : Binary64} (hx : x.isNegative = false) (hy : y.isNegative = false) :
    (x * y).isNegative = false := by
  show (mul x y).isNegative = false
  unfold isNegative at hx hy
  unfold mul
  split
  · rw [isNegative_ofQuotient]
    simp_all
  · simp_all [isNegative]
  · split <;> simp_all [isNegative]
  · split <;> simp_all [isNegative]
  · rfl

theorem powerOfTwo_nonneg (e : Int) : 0 ≤ powerOfTwo e := by
  unfold powerOfTwo
  split
  · exact Rat.natCast_nonneg
  · exact Rat.mkRat_nonneg (by decide) _

/-- A number without a minus is not below zero. -/
theorem toRat?_nonneg {x : Binary64} (h : x.isNegative = false) {q : Rat}
    (hq : x.toRat? = some q) : 0 ≤ q := by
  cases x with
  | nan => cases hq
  | infinite _ => cases hq
  | finite s m e =>
    obtain rfl : s = false := h
    obtain rfl := Option.some.inj hq
    exact Rat.mul_nonneg Rat.natCast_nonneg (powerOfTwo_nonneg e)

end TaskSieve.Binary64

namespace TaskSieve.Decimal

/-- A decimal keeps its sign in binary. -/
theorem isNegative_toBinary64 (d : Decimal) : d.toBinary64.isNegative = d.negative := by
  unfold toBinary64
  split
  · rfl
  split
  · rfl
  split
  · rfl
  split
  · exact Binary64.isNegative_ofQuotient _ _ _
  · exact Binary64.isNegative_ofQuotient _ _ _

end TaskSieve.Decimal
