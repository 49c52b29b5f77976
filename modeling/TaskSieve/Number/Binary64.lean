set_option autoImplicit false

/-! # Binary floating point of 64 bits

The numbers that percentages, positions, clocks and waiting times are kept in: 53 significant bits
and exponents from -1074 to 971. A finite number is held as its sign, significand and exponent, so
its exact value is a rational, and every operation is the exact operation followed by one rounding
to the nearest representable number, ties to the even significand. -/

namespace TaskSieve

/-- A floating-point number: not a number, an infinity, or `± mantissa * 2 ^ exponent`. Zero keeps
its sign. -/
inductive Binary64 where
  | nan
  | infinite (negative : Bool)
  | finite (negative : Bool) (mantissa : Nat) (exponent : Int)
deriving DecidableEq, Repr, Inhabited

namespace Binary64

/-- The quotient of two naturals rounded to the nearest natural, ties to the even one. -/
def roundQuotient (num den : Nat) : Nat :=
  let q := num / den
  let r := num % den
  if 2 * r < den then q
  else if den < 2 * r then q + 1
  else if q % 2 = 0 then q
  else q + 1

/-! ## Rounding -/

/-- The quotient `num / den` measured in units of `2 ^ exponent`, again as a quotient. -/
def inUnits (num den : Nat) (exponent : Int) : Nat × Nat :=
  if 0 ≤ exponent then (num, den * Nat.pow 2 exponent.toNat)
  else (num * Nat.pow 2 (-exponent).toNat, den)

/-- The exponent at which `num / den` has 53 significant bits, or the least exponent if it has
fewer there. -/
def unitExponent (num den : Nat) : Int :=
  let e := max (-1074) ((num.log2 : Int) - den.log2 - 53)
  let (n, d) := inUnits num den e
  if n / d < Nat.pow 2 53 then e else e + 1

/-- The number with this significand and exponent, or an infinity beyond the largest exponent. -/
def bounded (negative : Bool) (mantissa : Nat) (exponent : Int) : Binary64 :=
  if 971 < exponent then .infinite negative else .finite negative mantissa exponent

/-- The representable number nearest to `± num / den`. -/
def ofQuotient (negative : Bool) (num den : Nat) : Binary64 :=
  if num = 0 then .finite negative 0 (-1074)
  else
    let e := unitExponent num den
    let (n, d) := inUnits num den e
    let m := roundQuotient n d
    if m = Nat.pow 2 53 then bounded negative (Nat.pow 2 52) (e + 1) else bounded negative m e

/-- The representable number nearest to a rational. -/
def ofRat (q : Rat) : Binary64 :=
  ofQuotient (q.num < 0) q.num.natAbs q.den

/-- The representable number nearest to an integer. -/
def ofInt (n : Int) : Binary64 :=
  ofQuotient (n < 0) n.natAbs 1

/-- The representable number nearest to an integer, unless that integer lies beyond the largest
finite number. -/
def ofInt? (n : Int) : Option Binary64 :=
  match ofInt n with
  | .infinite _ => none
  | x => some x

/-! ## Exact values and order -/

/-- `2 ^ exponent` as a rational. -/
def powerOfTwo (exponent : Int) : Rat :=
  if 0 ≤ exponent then ((Nat.pow 2 exponent.toNat : Nat) : Rat)
  else mkRat 1 (Nat.pow 2 (-exponent).toNat)

/-- The exact value of a finite number. -/
def value (negative : Bool) (mantissa : Nat) (exponent : Int) : Rat :=
  (if negative then -(mantissa : Int) else (mantissa : Int) : Int) * powerOfTwo exponent

/-- The exact value of a number, if it has one. -/
def toRat? : Binary64 → Option Rat
  | .finite s m e => some (value s m e)
  | _ => none

/-- How two rationals compare. -/
def compareRat (a b : Rat) : Ordering :=
  if a < b then .lt else if a = b then .eq else .gt

/-- How two numbers compare; what is not a number compares with nothing. -/
def compare? : Binary64 → Binary64 → Option Ordering
  | .nan, _ => none
  | _, .nan => none
  | .infinite a, .infinite b => some (if a = b then .eq else if a then .lt else .gt)
  | .infinite a, .finite _ _ _ => some (if a then .lt else .gt)
  | .finite _ _ _, .infinite b => some (if b then .gt else .lt)
  | .finite s m e, .finite s' m' e' => some (compareRat (value s m e) (value s' m' e'))

/-- How a number compares with an integer, exactly. -/
def compareInt? (x : Binary64) (n : Int) : Option Ordering :=
  match x with
  | .nan => none
  | .infinite s => some (if s then .lt else .gt)
  | .finite s m e => some (compareRat (value s m e) n)

/-- Numerical equality: the two zeros are equal, and what is not a number equals nothing. -/
def eq (x y : Binary64) : Bool := compare? x y == some .eq

/-- Strictly below. -/
def lt (x y : Binary64) : Bool := compare? x y == some .lt

/-- Below or equal. -/
def le (x y : Binary64) : Bool := lt x y || eq x y

instance : LT Binary64 := ⟨fun x y => lt x y = true⟩
instance : LE Binary64 := ⟨fun x y => le x y = true⟩
instance (x y : Binary64) : Decidable (x < y) := inferInstanceAs (Decidable (lt x y = true))
instance (x y : Binary64) : Decidable (x ≤ y) := inferInstanceAs (Decidable (le x y = true))

/-! ## Arithmetic -/

/-- The sign bit. -/
def isNegative : Binary64 → Bool
  | .nan => false
  | .infinite s => s
  | .finite s _ _ => s

/-- The same magnitude with the opposite sign. -/
def neg : Binary64 → Binary64
  | .nan => .nan
  | .infinite s => .infinite (!s)
  | .finite s m e => .finite (!s) m e

/-- The exact sum, rounded; opposite infinities have none. -/
def add : Binary64 → Binary64 → Binary64
  | .finite s m e, .finite s' m' e' =>
    if m = 0 ∧ m' = 0 then .finite (s && s') 0 (-1074)
    else ofRat (value s m e + value s' m' e')
  | .infinite a, .infinite b => if a = b then .infinite a else .nan
  | .infinite a, .finite _ _ _ => .infinite a
  | .finite _ _ _, .infinite b => .infinite b
  | _, _ => .nan

/-- The exact difference, rounded. -/
def sub (x y : Binary64) : Binary64 := add x (neg y)

/-- The exact product, rounded; zero times infinity is not a number. -/
def mul : Binary64 → Binary64 → Binary64
  | .finite s m e, .finite s' m' e' =>
    let q := value false m e * value false m' e'
    ofQuotient (s != s') q.num.natAbs q.den
  | .infinite a, .infinite b => .infinite (a != b)
  | .infinite a, .finite b m _ => if m = 0 then .nan else .infinite (a != b)
  | .finite a m _, .infinite b => if m = 0 then .nan else .infinite (a != b)
  | _, _ => .nan

/-- The exact quotient, rounded; dividing by zero gives an infinity, and zero by zero is not a
number. -/
def div : Binary64 → Binary64 → Binary64
  | .finite s m e, .finite s' m' e' =>
    if m' = 0 then (if m = 0 then .nan else .infinite (s != s'))
    else
      let q := value false m e / value false m' e'
      ofQuotient (s != s') q.num.natAbs q.den
  | .infinite a, .finite b _ _ => .infinite (a != b)
  | .finite a _ _, .infinite b => .finite (a != b) 0 (-1074)
  | _, _ => .nan

instance : Neg Binary64 := ⟨neg⟩
instance : Add Binary64 := ⟨add⟩
instance : Sub Binary64 := ⟨sub⟩
instance : Mul Binary64 := ⟨mul⟩
instance : Div Binary64 := ⟨div⟩
instance : NatCast Binary64 := ⟨fun n => ofInt n⟩
instance (n : Nat) : OfNat Binary64 n := ⟨ofInt n⟩

/-! ## Whole numbers and rounding to places -/

/-- Whether the number is finite. -/
def isFinite : Binary64 → Bool
  | .finite _ _ _ => true
  | _ => false

/-- The integer that a number is exactly, if it is one. -/
def toInt? : Binary64 → Option Int
  | .finite s m e =>
    let q := value s m e
    if q.den = 1 then some q.num else none
  | _ => none

/-- The nearest multiple of `10 ^ -places`, ties to the even one, as a representable number.
Infinities and what is not a number stay. -/
def roundPlaces (places : Nat) : Binary64 → Binary64
  | .finite s m e =>
    let q := value false m e
    ofQuotient s (roundQuotient (q.num.natAbs * Nat.pow 10 places) q.den) (Nat.pow 10 places)
  | x => x

end Binary64

end TaskSieve
