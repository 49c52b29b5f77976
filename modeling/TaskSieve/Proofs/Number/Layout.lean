import TaskSieve.Proofs.Number.Digits
import TaskSieve.Proofs.Number.Shortest

set_option autoImplicit false

/-! # The layout of decimals

A decimal is written with a point alone while its leading digit stands close to the point, and with a
power of ten beyond. The first layout keeps the size of the decimal, whichever zeros it fills in: the
digits on both sides of the point, read as one number and shifted back by those behind it, are the
decimal again. The second one has an `e` behind its digits, and the digits and the power behind it
give the same size. -/

namespace TaskSieve.Decimal

open Text (IsDigits digitsValue)

/-! ## Digits around a point -/

/-- Whole digits without a zero in front that does not count. -/
def IsWhole (ds : List Char) : Prop := ds = ['0'] ∨ ds.head? ≠ some '0'

theorem isWhole_toDigits (n : Nat) : IsWhole (Nat.toDigits 10 n) := by
  rcases Nat.eq_zero_or_pos n with rfl | hpos
  · exact .inl rfl
  · exact .inr (Text.head?_toDigits hpos)

/-- Digits before and behind a point are written for a number: together they have its digits, up to
zeros, and the point stands in its place. -/
structure PointAt (value : Nat) (exponent : Int) (front back : List Char) : Prop where
  before : IsDigits front
  whole : IsWhole front
  behind : IsDigits back
  size : (digitsValue (front ++ back) : ℚ) * 10 ^ (-(back.length : Int)) = value * 10 ^ exponent

/-- Zeros are filled in between the point and the digits. -/
theorem pointAt_before {ds : List Char} (h : IsDigits ds) {whole : Int} (hwhole : whole ≤ 0) :
    PointAt (digitsValue ds) (whole - ds.length) ['0']
      (List.replicate (-whole).toNat '0' ++ ds) where
  before := Text.isDigits_zero
  whole := .inl rfl
  behind := by
    refine ⟨by simp [h.ne_nil], fun c hc => ?_⟩
    exact (List.mem_append.1 hc).elim Text.isDigit_of_mem_zeros (h.all c)
  size := by
    have hzeros : ['0'] ++ (List.replicate (-whole).toNat '0' ++ ds) =
        List.replicate ((-whole).toNat + 1) '0' ++ ds := by
      rw [List.replicate_succ, List.singleton_append, List.cons_append]
    have hlength : -((List.replicate (-whole).toNat '0' ++ ds).length : Int) =
        whole - ds.length := by
      rw [List.length_append, List.length_replicate]
      omega
    rw [hzeros, Text.digitsValue_zeros_append _ h.all, hlength]

/-- The point stands between the digits. -/
theorem pointAt_between {ds : List Char} (h : IsDigits ds) (first : ds.head? ≠ some '0') {w : Nat}
    (hpos : 0 < w) (hlt : w < ds.length) :
    PointAt (digitsValue ds) (w - ds.length) (ds.take w) (ds.drop w) where
  before := ⟨List.ne_nil_of_length_pos (by rw [List.length_take]; omega),
    fun c hc => h.all c (List.mem_of_mem_take hc)⟩
  whole := by
    rw [IsWhole, List.head?_take, if_neg (by omega)]
    exact .inr first
  behind := ⟨List.ne_nil_of_length_pos (by rw [List.length_drop]; omega),
    fun c hc => h.all c (List.mem_of_mem_drop hc)⟩
  size := by
    have hlength : -((ds.drop w).length : Int) = w - ds.length := by
      rw [List.length_drop]
      omega
    rw [List.take_append_drop, hlength]

/-- Zeros are filled in between the digits and the point, and one behind it. -/
theorem pointAt_behind {ds : List Char} (h : IsDigits ds) (first : ds.head? ≠ some '0') {w : Nat}
    (hle : ds.length ≤ w) :
    PointAt (digitsValue ds) (w - ds.length) (ds ++ List.replicate (w - ds.length) '0')
      ['0'] where
  before := by
    refine ⟨by simp [h.ne_nil], fun c hc => ?_⟩
    exact (List.mem_append.1 hc).elim (h.all c) Text.isDigit_of_mem_zeros
  whole := by
    rw [IsWhole, List.head?_append_of_ne_nil _ h.ne_nil]
    exact .inr first
  behind := Text.isDigits_zero
  size := by
    have hzeros : ds ++ List.replicate (w - ds.length) '0' ++ ['0'] =
        ds ++ List.replicate (w - ds.length + 1) '0' := by
      rw [List.append_assoc, List.replicate_succ']
    have hexponent : (w : Int) - ds.length = ((w - ds.length : Nat) : Int) := by omega
    rw [hzeros, Text.digitsValue_append_zeros _ h.all, hexponent, zpow_natCast, pow_succ]
    simp only [Nat.cast_mul, Nat.cast_pow, Nat.cast_ofNat, List.length_singleton, Nat.cast_one,
      zpow_neg, zpow_one]
    ring

theorem exists_pointAt {ds : List Char} (h : IsDigits ds) (first : ds.head? ≠ some '0')
    (whole : Int) :
    ∃ front back, (pointed ds whole).toList = front ++ '.' :: back ∧
      PointAt (digitsValue ds) (whole - ds.length) front back := by
  rw [pointed]
  split
  · next hwhole =>
    refine ⟨_, _, ?_, pointAt_before h hwhole⟩
    simp
  · next hwhole =>
    obtain ⟨w, rfl⟩ := Int.eq_ofNat_of_zero_le (a := whole) (by omega)
    have hpos : 0 < w := by omega
    by_cases hlt : w < ds.length
    · refine ⟨_, _, ?_, pointAt_between h first hpos hlt⟩
      have hback : (ds.drop w).isEmpty = false := by
        rw [List.isEmpty_eq_false_iff]
        exact (pointAt_between h first hpos hlt).behind.ne_nil
      have hzeros : w - ds.length = 0 := by omega
      simp only [Int.toNat_natCast, hback, hzeros, List.replicate_zero, List.append_nil,
        Bool.false_eq_true, if_false, String.toList_ofList, List.append_assoc,
        List.singleton_append]
    · refine ⟨_, _, ?_, pointAt_behind h first (Nat.le_of_not_lt hlt)⟩
      have hback : ds.drop w = [] := List.drop_eq_nil_of_le (Nat.le_of_not_lt hlt)
      have hfront : ds.take w = ds := List.take_of_length_le (Nat.le_of_not_lt hlt)
      simp only [Int.toNat_natCast, hback, hfront, List.isEmpty_nil, if_true,
        String.toList_ofList, List.append_assoc, List.singleton_append]

/-! ## Both layouts -/

/-- The power of ten of the leading digit. -/
def leading (d : Decimal) : Int := width d.digits + d.exponent - 1

/-- A decimal that is written with a point alone. -/
def IsPositional (d : Decimal) : Prop := d.digits = 0 ∨ -4 ≤ d.leading ∧ d.leading < 16

instance (d : Decimal) : Decidable d.IsPositional :=
  inferInstanceAs (Decidable (d.digits = 0 ∨ -4 ≤ d.leading ∧ d.leading < 16))

/-- The minus of a negative decimal. -/
def signText (negative : Bool) : List Char := if negative then ['-'] else []

theorem toList_signed (negative : Bool) (body : String) :
    (if negative then "-" ++ body else body).toList = signText negative ++ body.toList := by
  cases negative with
  | false => rfl
  | true => simp [signText]

/-- A text with a point alone is that of a decimal of the same size. -/
theorem toList_text_of_isPositional {d : Decimal} (h : d.IsPositional) :
    ∃ front back, d.text.toList = signText d.negative ++ (front ++ '.' :: back) ∧
      PointAt d.digits d.exponent front back := by
  rw [text, toList_signed]
  by_cases hzero : d.digits = 0
  · rw [if_pos hzero]
    refine ⟨['0'], ['0'], by simp, Text.isDigits_zero, .inl rfl, Text.isDigits_zero, ?_⟩
    have hvalue : digitsValue (['0'] ++ ['0']) = 0 := by decide
    rw [hvalue, hzero]
    simp
  · have hpower : -4 ≤ ((Nat.toDigits 10 d.digits).length : Int) + d.exponent - 1 ∧
        ((Nat.toDigits 10 d.digits).length : Int) + d.exponent - 1 < 16 := h.resolve_left hzero
    rw [if_neg hzero, if_pos hpower]
    obtain ⟨front, back, htext, point⟩ := exists_pointAt (Text.isDigits_toDigits d.digits)
      (Text.head?_toDigits (Nat.pos_of_ne_zero hzero))
      ((Nat.toDigits 10 d.digits).length + d.exponent)
    rw [Text.digitsValue_toDigits, add_sub_cancel_left] at point
    exact ⟨front, back, by rw [htext], point⟩

/-- What stands behind the first digit of a decimal with a power of ten: a point and further digits,
or nothing. -/
def fractionText (ds : List Char) : List Char := if ds = [] then [] else '.' :: ds

/-- A power of ten behind the digits: an `e`, a sign and digits. -/
def powerText (negative : Bool) (ds : List Char) : List Char :=
  'e' :: (if negative then '-' else '+') :: ds

/-- The power of ten that a sign and digits write. -/
def powerValue (negative : Bool) (ds : List Char) : Int :=
  if negative then -(digitsValue ds : Int) else digitsValue ds

theorem toList_scientific (lead : Char) (fraction : List Char) (power : Int) :
    (scientific (lead :: fraction) power).toList = lead :: (fractionText fraction ++
      powerText (decide (power < 0)) (paddedText 2 power.natAbs).toList) := by
  cases fraction with
  | nil => simp only [scientific, powerText, decide_eq_true_eq]; split <;> simp [fractionText]
  | cons c fraction =>
    simp only [scientific, powerText, decide_eq_true_eq]
    split <;> simp [fractionText]

theorem isDigits_paddedText (k n : Nat) : IsDigits (paddedText k n).toList := by
  rw [paddedText, String.toList_ofList]
  refine ⟨by simp, fun c hc => ?_⟩
  exact (List.mem_append.1 hc).elim Text.isDigit_of_mem_zeros ((Text.isDigits_toDigits n).all c)

theorem digitsValue_paddedText (width n : Nat) :
    digitsValue (paddedText width n).toList = n := by
  rw [paddedText, String.toList_ofList,
    Text.digitsValue_zeros_append _ (Text.isDigits_toDigits n).all, Text.digitsValue_toDigits]

/-- One digit, a fraction and a power of ten are written for a number: the digits are its digits, and
the power moves the point to its place. -/
structure PowerAt (value : Nat) (exponent : Int) (lead : Char) (fraction : List Char)
    (negative : Bool) (power : List Char) : Prop where
  digits : IsDigits (lead :: fraction)
  whole : IsWhole [lead]
  behind : IsDigits power
  size : (digitsValue (lead :: fraction) : ℚ) *
    10 ^ (powerValue negative power - (fraction.length : Int)) = value * 10 ^ exponent

/-- A text with a power of ten is that of a decimal of the same size. -/
theorem toList_text_of_not_isPositional {d : Decimal} (h : ¬ d.IsPositional) :
    ∃ lead fraction negative power, d.text.toList =
        signText d.negative ++ lead :: (fractionText fraction ++ powerText negative power) ∧
      PowerAt d.digits d.exponent lead fraction negative power := by
  rw [IsPositional, not_or] at h
  obtain ⟨hzero, hpower⟩ := h
  have digits := Text.isDigits_toDigits d.digits
  have first := Text.head?_toDigits (Nat.pos_of_ne_zero hzero)
  have value := Text.digitsValue_toDigits d.digits
  rw [leading, width] at hpower
  rw [text, toList_signed, if_neg hzero, if_neg hpower]
  obtain ⟨lead, fraction, hdigits⟩ := List.exists_cons_of_ne_nil digits.ne_nil
  rw [hdigits] at digits first value ⊢
  refine ⟨lead, fraction, _, _, by rw [toList_scientific], digits, .inr first,
    isDigits_paddedText 2 _, ?_⟩
  have hvalue : ∀ n : Int, powerValue (decide (n < 0)) (paddedText 2 n.natAbs).toList = n := by
    intro n
    rw [powerValue, digitsValue_paddedText]
    simp only [decide_eq_true_eq]
    split <;> omega
  have hexponent : ((lead :: fraction).length : Int) + d.exponent - 1 - fraction.length =
      d.exponent := by
    rw [List.length_cons]
    omega
  rw [hvalue, hexponent, value]

/-! ## Which layout -/

/-- The leading digit stands close to the point exactly if the size is not far from one. -/
theorem isPositional_iff_size (d : Decimal) :
    d.IsPositional ↔ d.digits = 0 ∨ (10 : ℚ) ^ (-4 : Int) ≤ d.size ∧ d.size < 10 ^ (16 : Int) := by
  refine or_congr_right' fun hzero => ?_
  obtain ⟨hlow, hhigh⟩ := size_bounds (Nat.pos_of_ne_zero hzero)
  have ten : (1 : ℚ) < 10 := by norm_num
  rw [leading]
  refine and_congr ⟨fun h => ?_, fun h => ?_⟩ ⟨fun h => ?_, fun h => ?_⟩
  · exact (zpow_le_zpow_right₀ ten.le h).trans hlow
  · have := (zpow_lt_zpow_iff_right₀ ten).1 (lt_of_le_of_lt h hhigh)
    omega
  · exact lt_of_lt_of_le hhigh (zpow_le_zpow_right₀ ten.le (by omega))
  · exact (zpow_lt_zpow_iff_right₀ ten).1 (lt_of_le_of_lt hlow h)

section Ends

/-! At the ends of the range stand two numbers whose shortest decimals have one digit. -/

theorem toBinary64_least (s : Bool) :
    toBinary64 ⟨s, 1, -4⟩ = .finite s 7378697629483821 (-66) := by
  cases s <;> decide +kernel

theorem shortest_least (s : Bool) : shortest s 7378697629483821 (-66) = ⟨s, 1, -4⟩ := by
  cases s <;> decide +kernel

theorem toBinary64_beyond (s : Bool) : toBinary64 ⟨s, 1, 16⟩ = .finite s 5000000000000000 1 := by
  cases s <;> decide +kernel

theorem shortest_beyond (s : Bool) : shortest s 5000000000000000 1 = ⟨s, 1, 16⟩ := by
  cases s <;> decide +kernel

/-- No number lies between `10 ^ -4` and what it is rounded to. -/
theorem eq_least {m : Nat} {e : Int} (h : Binary64.IsNormal m e)
    (hlow : (10 : ℚ) ^ (-4 : Int) ≤ m * 2 ^ e)
    (hhigh : (m : ℚ) * 2 ^ e ≤ (7378697629483821 : Nat) * 2 ^ (-66 : Int)) :
    m = 7378697629483821 ∧ e = -66 := by
  have hunit : Binary64.HasUnit ((m : ℚ) * 2 ^ e) (-66) := by
    refine ⟨by omega, lt_of_le_of_lt hhigh (by norm_num), .inr (le_trans ?_ hlow)⟩
    norm_num
  obtain rfl := h.hasUnit.unique hunit
  refine ⟨?_, rfl⟩
  have hpos : (0 : ℚ) < 2 ^ (-66 : Int) := by positivity
  have hle : m ≤ 7378697629483821 := by
    exact_mod_cast (mul_le_mul_iff_left₀ hpos).1 hhigh
  have hge : (7378697629483820 : ℚ) < m := by
    rw [← mul_lt_mul_iff_left₀ hpos]
    exact lt_of_lt_of_le (by norm_num) hlow
  have : 7378697629483820 < m := by exact_mod_cast hge
  omega

theorem eq_beyond {m : Nat} {e : Int} (h : Binary64.IsNormal m e)
    (heq : (m : ℚ) * 2 ^ e = 10 ^ (16 : Int)) : m = 5000000000000000 ∧ e = 1 := by
  have hunit : Binary64.HasUnit ((m : ℚ) * 2 ^ e) 1 := by
    rw [heq]
    exact ⟨by omega, by norm_num, .inr (by norm_num)⟩
  obtain rfl := h.hasUnit.unique hunit
  refine ⟨?_, rfl⟩
  have htwice : (m : ℚ) * 2 = 5000000000000000 * 2 := by
    rw [zpow_one] at heq
    exact heq.trans (by norm_num)
  exact_mod_cast mul_right_cancel₀ two_ne_zero htwice

end Ends

/-- A number is written with a point alone exactly if it is zero or its size is at least `10 ^ -4`
and below `10 ^ 16`. -/
theorem isPositional_shortest_iff (s : Bool) {m : Nat} {e : Int} (h : Binary64.IsNormal m e) :
    (shortest s m e).IsPositional ↔
      m = 0 ∨ (10 : ℚ) ^ (-4 : Int) ≤ m * 2 ^ e ∧ (m : ℚ) * 2 ^ e < 10 ^ (16 : Int) := by
  have hback := toBinary64_shortest s h
  have hten : ∀ k : Int, size ⟨s, 1, k⟩ = 10 ^ k := fun k => by
    rw [size, Nat.cast_one, one_mul]
  rw [isPositional_iff_size]
  by_cases hm : m = 0
  · have hzero : shortest s m e = ⟨s, 0, 0⟩ := if_pos hm
    rw [hzero]
    exact ⟨fun _ => .inl hm, fun _ => .inl rfl⟩
  have hdigits : (shortest s m e).digits ≠ 0 := by
    intro hzero
    rw [toBinary64_of_digits_eq_zero hzero] at hback
    exact hm (Binary64.finite.inj hback).2.1.symm
  rw [or_iff_right hm, or_iff_right hdigits]
  refine and_congr ⟨fun hle => ?_, fun hle => ?_⟩ ⟨fun hlt => ?_, fun hlt => ?_⟩
  · have hsize : size ⟨s, 1, -4⟩ ≤ (shortest s m e).size := (hten _).trans_le hle
    refine le_trans ?_ (toBinary64_mono hsize (toBinary64_least s) hback)
    norm_num
  · by_contra hlt
    have hsize : (shortest s m e).size ≤ size ⟨s, 1, -4⟩ :=
      (not_le.1 hlt).le.trans_eq (hten _).symm
    obtain ⟨rfl, rfl⟩ := eq_least h hle (toBinary64_mono hsize hback (toBinary64_least s))
    exact hlt (by rw [shortest_least, hten])
  · have hsize : (shortest s m e).size ≤ size ⟨s, 1, 16⟩ := hlt.le.trans_eq (hten _).symm
    have hle : (m : ℚ) * 2 ^ e ≤ 10 ^ (16 : Int) :=
      (toBinary64_mono hsize hback (toBinary64_beyond s)).trans_eq (by norm_num)
    refine lt_of_le_of_ne hle fun heq => ?_
    obtain ⟨rfl, rfl⟩ := eq_beyond h heq
    rw [shortest_beyond, hten] at hlt
    exact lt_irrefl _ hlt
  · by_contra hge
    have hsize : size ⟨s, 1, 16⟩ ≤ (shortest s m e).size := (hten _).trans_le (not_lt.1 hge)
    have := toBinary64_mono hsize (toBinary64_beyond s) hback
    exact absurd (lt_of_le_of_lt this hlt) (by norm_num)

end TaskSieve.Decimal
