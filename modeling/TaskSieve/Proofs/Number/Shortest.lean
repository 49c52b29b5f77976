import TaskSieve.Number.Shortest
import TaskSieve.Proofs.Number.Rounding

set_option autoImplicit false

/-! # The shortest decimal reads back

A decimal is rounded as its exact size says, so the decimal that is chosen for a number can be
written in any way that keeps its size: without trailing zeros, or with a point. The choice is one of
the candidates that read back as the number, and without such a candidate the exact decimal, which
reads back because the number is in normal form. -/

namespace TaskSieve.Decimal

open Binary64 (Canonical IsNormal ofQuotient)

/-! ## Sizes -/

/-- The exact size of a decimal, without its sign. -/
def size (d : Decimal) : ℚ := d.digits * 10 ^ d.exponent

theorem size_nonneg (d : Decimal) : 0 ≤ d.size := by
  rw [size]
  positivity

/-- A size is a quotient of naturals. -/
theorem exists_quotient (d : Decimal) : ∃ num den : Nat, 0 < den ∧ (num : ℚ) / den = d.size := by
  refine ⟨d.size.num.natAbs, d.size.den, d.size.den_pos, ?_⟩
  have hnum : (d.size.num.natAbs : Int) = d.size.num :=
    Int.natAbs_of_nonneg (Rat.num_nonneg.2 d.size_nonneg)
  rw [← Int.cast_natCast, hnum, Rat.num_div_den]

theorem lt_pow_width (n : Nat) : n < 10 ^ width n :=
  (Nat.length_toDigits_le_iff (by omega) Nat.length_toDigits_pos).1 (Nat.le_refl _)

theorem pow_width_le {n : Nat} (hn : 0 < n) : 10 ^ (width n - 1) ≤ n := by
  have hpos : 0 < width n := Nat.length_toDigits_pos
  by_cases hone : width n = 1
  · rw [hone]
    exact hn
  · have := mt (Nat.length_toDigits_le_iff (n := n) (by omega : 1 < 10)
      (by omega : 0 < width n - 1)).2 (by rw [← width]; omega)
    omega

/-- A size lies between the powers of ten that its number of digits gives. -/
theorem size_bounds {d : Decimal} (h : 0 < d.digits) :
    (10 : ℚ) ^ ((width d.digits : Int) + d.exponent - 1) ≤ d.size ∧
      d.size < 10 ^ ((width d.digits : Int) + d.exponent) := by
  have ten : (10 : ℚ) ≠ 0 := by norm_num
  have hpos : 0 < width d.digits := Nat.length_toDigits_pos
  constructor
  · have cast : (width d.digits : Int) + d.exponent - 1 = ((width d.digits - 1 : Nat) : Int) +
        d.exponent := by omega
    rw [cast, zpow_add₀ ten, zpow_natCast, size]
    gcongr
    exact_mod_cast pow_width_le h
  · rw [zpow_add₀ ten, zpow_natCast, size]
    gcongr
    exact_mod_cast lt_pow_width d.digits

/-! ## Rounding decimals -/

theorem two_pow_le_ten_pow : 2 ^ 1024 ≤ 10 ^ 310 := by decide +kernel

theorem two_pow_lt_ten_pow : 2 ^ 1075 < 10 ^ 330 := by decide +kernel

/-- The cutoffs do not show: a decimal is rounded as any quotient of its size is. -/
theorem toBinary64_eq_ofQuotient {d : Decimal} {num den : Nat} (hden : 0 < den)
    (h : (num : ℚ) / den = d.size) : d.toBinary64 = ofQuotient d.negative num den := by
  rw [toBinary64]
  by_cases hzero : d.digits = 0
  · have hnum : num = 0 := by
      rw [size, hzero, Nat.cast_zero, zero_mul, div_eq_zero_iff] at h
      rcases h with h | h
      · exact_mod_cast h
      · exact absurd (show den = 0 by exact_mod_cast h) hden.ne'
    rw [if_pos hzero, hnum, ofQuotient, if_pos rfl]
  rw [if_neg hzero]
  obtain ⟨hlow, hhigh⟩ := size_bounds (Nat.pos_of_ne_zero hzero)
  by_cases hlarge : 310 < (width d.digits : Int) + d.exponent
  · rw [if_pos hlarge, Binary64.ofQuotient_of_large _ hden]
    calc (2 : ℚ) ^ (1024 : Int) ≤ 10 ^ (310 : Int) := by exact_mod_cast two_pow_le_ten_pow
      _ ≤ 10 ^ ((width d.digits : Int) + d.exponent - 1) :=
          zpow_le_zpow_right₀ (by norm_num) (by omega)
      _ ≤ num / den := h ▸ hlow
  rw [if_neg hlarge]
  by_cases hsmall : (width d.digits : Int) + d.exponent < -330
  · rw [if_pos hsmall, Binary64.ofQuotient_of_small _ hden]
    calc (num : ℚ) / den < 10 ^ ((width d.digits : Int) + d.exponent) := h ▸ hhigh
      _ ≤ 10 ^ (-330 : Int) := zpow_le_zpow_right₀ (by norm_num) (by omega)
      _ < 2 ^ (-1075 : Int) := by
          rw [zpow_neg, zpow_neg, inv_lt_inv₀ (by positivity) (by positivity)]
          exact_mod_cast two_pow_lt_ten_pow
  rw [if_neg hsmall]
  split
  · next hexp =>
    refine Binary64.ofQuotient_congr _ (by omega) hden ?_
    obtain ⟨k, hk⟩ := Int.eq_ofNat_of_zero_le hexp
    rw [h, size, hk]
    simp
  · next hexp =>
    refine Binary64.ofQuotient_congr _ (Nat.pow_pos (by omega)) hden ?_
    obtain ⟨k, hk⟩ := Int.eq_ofNat_of_zero_le (a := -d.exponent) (by omega)
    have hexp' : d.exponent = -(k : Int) := by omega
    rw [h, size, hexp']
    simp [div_eq_mul_inv]

/-- Decimals of one sign and one size are rounded to the same number. -/
theorem toBinary64_congr {d d' : Decimal} (hsign : d.negative = d'.negative)
    (hsize : d.size = d'.size) : d.toBinary64 = d'.toBinary64 := by
  obtain ⟨num, den, hden, h⟩ := d.exists_quotient
  rw [toBinary64_eq_ofQuotient hden h, toBinary64_eq_ofQuotient hden (h.trans hsize), hsign]

/-- A greater decimal is not rounded to a smaller number. -/
theorem toBinary64_mono {d d' : Decimal} {s s' : Bool} {m m' : Nat} {e e' : Int}
    (hsize : d.size ≤ d'.size) (h : d.toBinary64 = .finite s m e)
    (h' : d'.toBinary64 = .finite s' m' e') : (m : ℚ) * 2 ^ e ≤ m' * 2 ^ e' := by
  obtain ⟨num, den, hden, hq⟩ := d.exists_quotient
  obtain ⟨num', den', hden', hq'⟩ := d'.exists_quotient
  rw [toBinary64_eq_ofQuotient hden hq] at h
  rw [toBinary64_eq_ofQuotient hden' hq'] at h'
  exact Binary64.ofQuotient_mono hden hden' (by rwa [hq, hq']) h h'

theorem canonical_toBinary64 (d : Decimal) : d.toBinary64.Canonical := by
  obtain ⟨num, den, hden, h⟩ := d.exists_quotient
  rw [toBinary64_eq_ofQuotient hden h]
  exact Binary64.canonical_ofQuotient d.negative num hden

theorem toBinary64_of_digits_eq_zero {d : Decimal} (h : d.digits = 0) :
    d.toBinary64 = .finite d.negative 0 (-1074) :=
  if_pos h

/-- The decimal of a number in normal form is rounded to that number. -/
theorem toBinary64_of_isNormal {d : Decimal} {m : Nat} {e : Int} (h : IsNormal m e) (hm : 0 < m)
    (hsize : d.size = m * 2 ^ e) : d.toBinary64 = .finite d.negative m e := by
  obtain ⟨num, den, hden, hq⟩ := d.exists_quotient
  rw [toBinary64_eq_ofQuotient hden hq]
  exact Binary64.ofQuotient_of_isNormal d.negative h hm hden (hq.trans hsize)

/-! ## The shortest decimal -/

theorem negative_dropZeros (fuel : Nat) (d : Decimal) :
    (dropZeros fuel d).negative = d.negative := by
  induction fuel generalizing d with
  | zero => rfl
  | succ fuel ih =>
    rw [dropZeros]
    split
    · exact ih _
    · rfl

theorem size_dropZeros (fuel : Nat) (d : Decimal) : (dropZeros fuel d).size = d.size := by
  induction fuel generalizing d with
  | zero => rfl
  | succ fuel ih =>
    rw [dropZeros]
    split
    · next h =>
      rw [ih]
      have hdigits : d.digits = d.digits / 10 * 10 := by omega
      have ten : (10 : ℚ) ≠ 0 := by norm_num
      rw [size, size, zpow_add₀ ten, zpow_one]
      conv_rhs => rw [hdigits]
      push_cast
      ring
    · rfl

theorem size_exact (s : Bool) (m : Nat) (e : Int) : (exact s m e).size = m * 2 ^ e := by
  rw [exact]
  split
  · next h =>
    obtain ⟨k, rfl⟩ := Int.eq_ofNat_of_zero_le h
    simp [size]
  · next h =>
    obtain ⟨k, hk⟩ := Int.eq_ofNat_of_zero_le (a := -e) (by omega)
    obtain rfl : e = -(k : Int) := by omega
    have ten : (10 : ℚ) ^ k = 2 ^ k * 5 ^ k := by
      rw [← mul_pow]
      norm_num
    simp only [size, neg_neg, Int.toNat_natCast, Nat.pow_eq, Nat.cast_mul, Nat.cast_pow,
      Nat.cast_ofNat, zpow_neg, zpow_natCast, ten]
    field_simp

theorem negative_exact (s : Bool) (m : Nat) (e : Int) : (exact s m e).negative = s := by
  rw [exact]
  split <;> rfl

theorem negative_shortest (s : Bool) (m : Nat) (e : Int) : (shortest s m e).negative = s := by
  rw [shortest]
  split
  · rfl
  · dsimp only
    split
    · next d hd =>
      rw [negative_dropZeros]
      obtain ⟨i, -, hmem⟩ := List.mem_flatMap.1 (List.mem_of_find?_eq_some hd)
      simp only [neighbours, List.mem_cons, List.not_mem_nil, or_false] at hmem
      rcases hmem with rfl | rfl <;> rfl
    · exact negative_exact s m e

/-- The shortest decimal of a number in normal form reads back as that number. -/
theorem toBinary64_shortest (s : Bool) {m : Nat} {e : Int} (h : IsNormal m e) :
    (shortest s m e).toBinary64 = .finite s m e := by
  rw [shortest]
  split
  · next hm =>
    have he : e = -1074 := by
      rcases h.le with he | hle
      · exact he
      · exact absurd (hm ▸ hle) (by decide)
    rw [toBinary64_of_digits_eq_zero rfl, hm, he]
  · next hm =>
    dsimp only
    split
    · next d hd =>
      have hback := List.find?_some hd
      rw [decide_eq_true_eq] at hback
      rw [← hback]
      exact toBinary64_congr (negative_dropZeros _ d) (size_dropZeros _ d)
    · rw [toBinary64_of_isNormal h (Nat.pos_of_ne_zero hm) (size_exact s m e), negative_exact]

end TaskSieve.Decimal
