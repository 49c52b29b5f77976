import TaskSieve.Proofs.Number.Rounding
import TaskSieve.Proofs.Number.Scaling

set_option autoImplicit false

/-! # Integers beyond the largest number

An integer has a nearest finite number exactly if it lies below a bound: halfway between the largest
finite number and the next power of two, where ties are rounded up. -/

namespace TaskSieve.Binary64

/-- Naturals are rounded up to an even number from halfway below it on. -/
theorem roundQuotient_lt_iff {n d m : Nat} (hd : 0 < d) (even : m % 2 = 0) :
    roundQuotient n d < m ↔ 2 * n + d < 2 * (m * d) := by
  have hn := Nat.div_add_mod n d
  have hr := Nat.mod_lt n hd
  have hround : roundQuotient n d =
      if 2 * (n % d) < d then n / d else if d < 2 * (n % d) then n / d + 1
      else if n / d % 2 = 0 then n / d else n / d + 1 := rfl
  rcases Nat.lt_trichotomy (n / d + 1) m with hlt | rfl | hgt
  · have : (n / d + 2) * d ≤ m * d := Nat.mul_le_mul_right d hlt
    rw [Nat.add_mul, Nat.mul_comm (n / d)] at this
    have := (roundQuotient_bounds n d).2
    exact iff_of_true (by omega) (by omega)
  · -- just below an even number ties are rounded up
    rw [hround, Nat.add_mul, Nat.one_mul, Nat.mul_comm (n / d)]
    split_ifs <;> omega
  · have : m * d ≤ n / d * d := Nat.mul_le_mul_right d (by omega)
    rw [Nat.mul_comm (n / d)] at this
    have := (roundQuotient_bounds n d).1
    exact iff_of_false (by omega) (by omega)

/-- The least natural that is rounded to an infinity: halfway between the largest number and the
next power of two. -/
def overflow : Nat := Nat.pow 2 1024 - Nat.pow 2 970

theorem overflow_bounds : Nat.pow 2 1023 < overflow ∧ overflow ≤ Nat.pow 2 1024 := by
  decide +kernel

theorem overflow_spec {k : Nat} (hk : k = 971) :
    2 * overflow + Nat.pow 2 k = 2 * (Nat.pow 2 53 * Nat.pow 2 k) := by
  subst hk
  decide +kernel

/-- In a unit below the greatest one no number is rounded to an infinity. -/
theorem isFinite_ofQuotient {num den : Nat} {e : Int} (s : Bool) (hnum : 0 < num)
    (hden : 0 < den) (h : HasUnit ((num : ℚ) / den) e) (he : e < 971) :
    (ofQuotient s num den).isFinite = true := by
  obtain ⟨hd, hq⟩ := inUnits_spec num hden e
  rw [ofQuotient_of_hasUnit s hnum hden h hd hq]
  split
  · rw [bounded, if_neg (by omega)]
    rfl
  · rw [bounded, if_neg (by omega)]
    rfl

/-- In the greatest unit the bound decides. -/
theorem isFinite_ofQuotient_iff_of_greatest {n k : Nat} (s : Bool) (hk : k = 971) (hn : 0 < n)
    (h : HasUnit ((n : ℚ) / (1 : Nat)) k) :
    (ofQuotient s n 1).isFinite = true ↔ n < overflow := by
  have hd : 0 < Nat.pow 2 k := Nat.two_pow_pos k
  have bound : roundQuotient n (Nat.pow 2 k) < Nat.pow 2 53 ↔ n < overflow := by
    have even : Nat.pow 2 53 % 2 = 0 := by decide
    have := overflow_spec hk
    rw [roundQuotient_lt_iff hd even]
    omega
  have hunit : (n : ℚ) / (Nat.pow 2 k : Nat) = (n : ℚ) / (1 : Nat) / 2 ^ (k : Int) := by
    rw [Nat.cast_one, div_one]
    norm_cast
  have most : roundQuotient n (Nat.pow 2 k) ≤ Nat.pow 2 53 := by
    have hlt : n < Nat.pow 2 53 * Nat.pow 2 k := by
      have := h.lt
      rw [Nat.cast_one, div_one, zpow_add₀ two_ne_zero] at this
      exact_mod_cast this
    have := (Nat.div_lt_iff_lt_mul hd).2 hlt
    have := (roundQuotient_bounds n (Nat.pow 2 k)).2
    omega
  rw [← bound, ofQuotient_of_hasUnit s hn Nat.one_pos h hd hunit]
  split
  · next hfull =>
    rw [bounded, if_pos (by omega)]
    exact iff_of_false (by simp [isFinite]) (by omega)
  · next hne =>
    rw [bounded, if_neg (by omega)]
    exact iff_of_true rfl (by omega)

/-- A natural is rounded to a finite number exactly below the bound. -/
theorem isFinite_ofQuotient_iff (s : Bool) (n : Nat) :
    (ofQuotient s n 1).isFinite = true ↔ n < overflow := by
  obtain ⟨small, large⟩ := overflow_bounds
  rcases Nat.eq_zero_or_pos n with rfl | hn
  · rw [ofQuotient, if_pos rfl]
    exact iff_of_true rfl (by omega)
  have hunit := hasUnit_unitExponent hn Nat.one_pos
  generalize unitExponent n 1 = e at hunit
  rcases Int.lt_trichotomy e 971 with hlt | heq | hgt
  · refine iff_of_true (isFinite_ofQuotient s hn Nat.one_pos hunit hlt) (lt_trans ?_ small)
    -- under a name the exponent is not evaluated
    obtain ⟨k, hk⟩ : ∃ k : Nat, k = 1023 := ⟨1023, rfl⟩
    have hbelow : (n : ℚ) < 2 ^ (k : Int) := by
      have := hunit.lt
      rw [Nat.cast_one, div_one] at this
      exact lt_of_lt_of_le this (zpow_le_zpow_right₀ (by norm_num) (by omega))
    rw [← hk]
    exact_mod_cast hbelow
  · obtain ⟨k, hk⟩ : ∃ k : Nat, k = 971 := ⟨971, rfl⟩
    obtain rfl : e = k := by omega
    rw [isFinite_ofQuotient_iff_of_greatest s hk hn hunit]
  · obtain ⟨k, hk⟩ : ∃ k : Nat, k = 1024 := ⟨1024, rfl⟩
    have habove : (2 : ℚ) ^ (k : Int) ≤ (n : ℚ) / (1 : Nat) := by
      refine le_trans ?_ (hunit.le.resolve_left (by omega))
      exact zpow_le_zpow_right₀ (by norm_num) (by omega)
    have hlarge : ofQuotient s n 1 = infinite s := by
      subst hk
      exact ofQuotient_of_large s Nat.one_pos habove
    rw [hlarge]
    refine iff_of_false (by simp [isFinite]) (not_lt.2 (large.trans ?_))
    rw [Nat.cast_one, div_one] at habove
    rw [← hk]
    exact_mod_cast habove

/-- An integer is no number exactly from the bound on, in either direction. -/
theorem ofInt?_eq_none_iff (n : Int) : ofInt? n = none ↔ overflow ≤ n.natAbs := by
  rw [← not_lt, ← isFinite_ofQuotient_iff (n < 0) n.natAbs, ofInt?, ofInt]
  have hnan : ofQuotient (n < 0) n.natAbs 1 ≠ nan := ofQuotient_ne_nan _ _ _
  generalize ofQuotient (n < 0) n.natAbs 1 = x at hnan
  cases x with
  | nan => exact absurd rfl hnan
  | infinite s => simp [isFinite]
  | finite s m e => simp [isFinite]

end TaskSieve.Binary64
