import TaskSieve.Number.Shortest

set_option autoImplicit false

/-! # The text of numbers

Integers are written in plain decimal. Floating-point numbers are written with their shortest
digits: positionally while the leading digit stands between `10 ^ -4` and `10 ^ 15`, always with a
fraction, and with a power of ten of at least two digits beyond. -/

namespace TaskSieve

/-- The decimal digits of a natural. -/
def naturalText (n : Nat) : String := String.ofList (Nat.toDigits 10 n)

/-- The decimal text of an integer. -/
def integerText (n : Int) : String :=
  if n < 0 then "-" ++ naturalText n.natAbs else naturalText n.natAbs

/-- A natural in decimal with at least `width` digits. -/
def paddedText (width n : Nat) : String :=
  let ds := Nat.toDigits 10 n
  String.ofList (List.replicate (width - ds.length) '0' ++ ds)

namespace Decimal

/-- Digits with a point after the first `whole` of them, zeros filling up either side. -/
def pointed (ds : List Char) (whole : Int) : String :=
  if whole ≤ 0 then
    String.ofList (['0', '.'] ++ List.replicate (-whole).toNat '0' ++ ds)
  else
    let w := whole.toNat
    let front := ds.take w ++ List.replicate (w - ds.length) '0'
    let back := ds.drop w
    String.ofList (front ++ ['.'] ++ (if back.isEmpty then ['0'] else back))

/-- Digits in scientific notation; `power` is the power of ten of the first digit. -/
def scientific (ds : List Char) (power : Int) : String :=
  let mantissa := match ds with
    | [] => "0"
    | [d] => String.singleton d
    | d :: rest => String.ofList (d :: '.' :: rest)
  mantissa ++ "e" ++ (if power < 0 then "-" else "+") ++ paddedText 2 power.natAbs

/-- The text of a decimal. -/
def text (d : Decimal) : String :=
  let ds := Nat.toDigits 10 d.digits
  let whole := (ds.length : Int) + d.exponent
  let power := whole - 1
  let body :=
    if d.digits = 0 then "0.0"
    else if -4 ≤ power ∧ power < 16 then pointed ds whole
    else scientific ds power
  if d.negative then "-" ++ body else body

end Decimal

namespace Binary64

/-- The text of a floating-point number. -/
def text : Binary64 → String
  | .nan => "nan"
  | .infinite s => if s then "-inf" else "inf"
  | .finite s m e => (Decimal.shortest s m e).text

/-- A number written with exactly `places` digits after the point, ties to the even digit. -/
def fixedText (places : Nat) : Binary64 → String
  | .finite s m e =>
    let q := value false m e
    let n := roundQuotient (q.num.natAbs * Nat.pow 10 places) q.den
    let unit := Nat.pow 10 places
    let body := naturalText (n / unit) ++ "." ++ paddedText places (n % unit)
    if s then "-" ++ body else body
  | x => x.text

end Binary64

end TaskSieve
