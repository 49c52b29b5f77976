import TaskSieve.Number.Decimal

set_option autoImplicit false

/-! # The shortest decimal of a floating-point number

A floating-point number is written with the fewest decimal digits that read back as the same
number; among the decimals of that length, the nearest. -/

namespace TaskSieve.Decimal

/-- The position of the leading decimal digit of a positive quotient: the greatest power of ten
that is not above it. -/
def leadingPower (num den : Nat) : Int :=
  if den ≤ num then (width (num / den) : Int) - 1
  else
    let w := width (den / num)
    if num * Nat.pow 10 (w - 1) = den then -((w : Int) - 1) else -(w : Int)

/-- The quotient measured in units of `10 ^ power`, again as a quotient. -/
def inDecimalUnits (num den : Nat) (power : Int) : Nat × Nat :=
  if 0 ≤ power then (num, den * Nat.pow 10 power.toNat)
  else (num * Nat.pow 10 (-power).toNat, den)

/-- The two decimals with `count` digits next to `num / den`, the nearer one first. -/
def neighbours (negative : Bool) (num den count : Nat) : List Decimal :=
  let power := leadingPower num den - ((count : Int) - 1)
  let (n, d) := inDecimalUnits num den power
  let near := Binary64.roundQuotient n d
  let far := if near = n / d then near + 1 else n / d
  [⟨negative, near, power⟩, ⟨negative, far, power⟩]

/-- The exact decimal of `± mantissa * 2 ^ exponent`. -/
def exact (negative : Bool) (mantissa : Nat) (exponent : Int) : Decimal :=
  if 0 ≤ exponent then ⟨negative, mantissa * Nat.pow 2 exponent.toNat, 0⟩
  else ⟨negative, mantissa * Nat.pow 5 (-exponent).toNat, exponent⟩

/-- A decimal without trailing zeros; `fuel` bounds how many are removed. -/
def dropZeros : Nat → Decimal → Decimal
  | 0, d => d
  | fuel + 1, d =>
    if d.digits ≠ 0 ∧ d.digits % 10 = 0 then
      dropZeros fuel ⟨d.negative, d.digits / 10, d.exponent + 1⟩
    else d

/-- The shortest decimal that reads back as `± mantissa * 2 ^ exponent`: of the neighbours with
1, 2, … 17 digits the first that does, or the exact decimal. -/
def shortest (negative : Bool) (mantissa : Nat) (exponent : Int) : Decimal :=
  if mantissa = 0 then ⟨negative, 0, 0⟩
  else
    let q := Binary64.value false mantissa exponent
    let candidates := (List.range 17).flatMap fun i =>
      neighbours negative q.num.natAbs q.den (i + 1)
    match candidates.find? fun d => d.toBinary64 = .finite negative mantissa exponent with
    | some d => dropZeros (width d.digits) d
    | none => exact negative mantissa exponent

end TaskSieve.Decimal
