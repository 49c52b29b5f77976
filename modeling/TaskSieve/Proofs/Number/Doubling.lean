import Mathlib.Tactic.GCongr
import TaskSieve.Number.Measure
import TaskSieve.Proofs.Number.Rounding

set_option autoImplicit false

/-! # Doubling

Waiting times are doubled again and again. A number that stays below the largest exponent is doubled
without rounding, so its doubles are the powers of two times its exact value. -/

namespace TaskSieve

/-- A number, its double, the double of that, and so on. -/
def doublings {α : Type} [Measure α] (x : α) : Nat → List α
  | 0 => []
  | n + 1 => x :: doublings (x * ((2 : Nat) : α)) n

theorem length_doublings {α : Type} [Measure α] (x : α) (n : Nat) :
    (doublings x n).length = n := by
  induction n generalizing x with
  | zero => rfl
  | succ n ih => rw [doublings, List.length_cons, ih]

namespace Binary64

/-! ## Exact values -/

theorem powerOfTwo_eq (e : Int) : powerOfTwo e = (2 : ℚ) ^ e := by
  rw [powerOfTwo]
  split
  · next h =>
    obtain ⟨k, rfl⟩ := Int.eq_ofNat_of_zero_le h
    rw [Int.toNat_natCast, zpow_natCast]
    exact Nat.cast_pow 2 k
  · next h =>
    obtain ⟨k, hk⟩ := Int.eq_ofNat_of_zero_le (a := -e) (by omega)
    obtain rfl : e = -(k : Int) := by omega
    have cast : ((Nat.pow 2 k : Nat) : ℚ) = 2 ^ k := Nat.cast_pow 2 k
    rw [neg_neg, Int.toNat_natCast, Rat.mkRat_eq_div, Int.cast_one, cast, zpow_neg, zpow_natCast,
      one_div]

/-- The exact value of a finite number, with its sign apart. -/
theorem value_eq (s : Bool) (m : Nat) (e : Int) :
    value s m e = (if s then -1 else 1) * (m * 2 ^ e) := by
  rw [value, powerOfTwo_eq]
  cases s <;> simp

/-- A number whose double is in normal form is doubled without rounding. -/
theorem finite_mul_two {s : Bool} {m : Nat} {e : Int} (hm : 0 < m) (h : IsNormal m (e + 1)) :
    finite s m e * ((2 : Nat) : Binary64) = finite s m (e + 1) := by
  have two : ((2 : Nat) : Binary64) = finite false 4503599627370496 (-51) := by decide
  have hq : value false m e * value false 4503599627370496 (-51) = m * 2 ^ (e + 1) := by
    have : ((4503599627370496 : Nat) : ℚ) = 2 ^ (52 : Int) := by norm_num
    rw [value_eq, value_eq, this, ← zpow_add₀ two_ne_zero, zpow_add_one₀ two_ne_zero]
    norm_num
    ring
  have sign : (s != false) = s := Bool.bne_false s
  rw [two]
  change mul _ _ = _
  simp only [mul, sign, hq]
  refine ofQuotient_of_isNormal s h hm (Rat.den_pos _) ?_
  have hpos : (0 : ℚ) < m * 2 ^ (e + 1) := by positivity
  rw [Nat.cast_natAbs, abs_of_pos (Rat.num_pos.2 hpos)]
  exact Rat.num_div_den _

/-- The doubles of a number that has all its bits are exact, up to the largest exponent. -/
theorem map_toRat?_doublings {s : Bool} {m : Nat} {e : Int} {n : Nat} (h : IsNormal m e)
    (full : Nat.pow 2 52 ≤ m) (room : e + n ≤ 972) :
    (doublings (finite s m e) n).map toRat? =
      (List.range n).map fun i => some (2 ^ i * value s m e) := by
  induction n generalizing e with
  | zero => rfl
  | succ n ih =>
    rw [doublings, List.map_cons, List.range_succ_eq_map, List.map_cons, List.map_map, pow_zero,
      one_mul]
    congr 1
    cases n with
    | zero => rfl
    | succ n =>
      have next : IsNormal m (e + 1) := ⟨by have := h.least; omega, by omega, h.lt, .inr full⟩
      have hm : 0 < m := (Nat.two_pow_pos 52).trans_le full
      rw [finite_mul_two hm next, ih next (by omega)]
      refine List.map_congr_left fun i _ => ?_
      rw [value_eq, value_eq, zpow_add_one₀ two_ne_zero, Function.comp_apply, pow_succ]
      ring_nf

/-! ## Numbers within bounds -/

theorem lt_iff_of_toRat? {x y : Binary64} {p q : ℚ} (hx : x.toRat? = some p)
    (hy : y.toRat? = some q) : x < y ↔ p < q := by
  cases x <;> cases y <;> cases hx <;> cases hy
  next s m e s' m' e' =>
  show ((compareRat (value s m e) (value s' m' e') == .lt) = true) ↔ _
  rw [compareRat]
  by_cases hlt : value s m e < value s' m' e'
  · simp [hlt]
  · by_cases heq : value s m e = value s' m' e' <;> simp [hlt, heq]

/-- A positive number has no sign. -/
theorem eq_finite_of_pos {x : Binary64} {q : ℚ} (hq : x.toRat? = some q) (hpos : 0 < q) :
    ∃ m e, x = finite false m e ∧ q = m * 2 ^ e := by
  cases x <;> cases hq
  next s m e =>
  cases s with
  | false => exact ⟨m, e, rfl, by rw [value_eq]; simp⟩
  | true =>
    have : (0 : ℚ) ≤ m * 2 ^ e := by positivity
    rw [value_eq] at hpos
    simp only [if_true, neg_mul, one_mul] at hpos
    linarith

/-- The doubles of a number that is not subnormal are exact, if they stay finite. -/
theorem map_toRat?_doublings_of_bounds {x : Binary64} {q : ℚ} {n : Nat} (canonical : x.Canonical)
    (hq : x.toRat? = some q) (low : (2 : ℚ) ^ (-1022 : Int) ≤ q)
    (high : q * 2 ^ n ≤ 2 ^ (1024 : Int)) :
    (doublings x n).map toRat? = (List.range n).map fun i => some (2 ^ i * q) := by
  have hpos : 0 < q := lt_of_lt_of_le (zpow_pos two_pos _) low
  obtain ⟨m, e, rfl, rfl⟩ := eq_finite_of_pos hq hpos
  have normal : IsNormal m e := canonical
  have full : Nat.pow 2 52 ≤ m := by
    rcases normal.le with rfl | hle
    · -- at the least exponent a number that is not subnormal has all its bits as well
      have split : (2 : ℚ) ^ (-1022 : Int) = 2 ^ (52 : Int) * 2 ^ (-1074 : Int) :=
        zpow_add₀ two_ne_zero 52 (-1074)
      rw [split] at low
      exact_mod_cast le_of_mul_le_mul_right low (zpow_pos two_pos _)
    · exact hle
  have room : e + n ≤ 972 := by
    have bits : (2 : ℚ) ^ (52 : Int) ≤ m := by exact_mod_cast full
    have bounded : (2 : ℚ) ^ (52 + e + n) ≤ 2 ^ (1024 : Int) := by
      calc (2 : ℚ) ^ (52 + e + n) = 2 ^ (52 : Int) * 2 ^ e * 2 ^ n := by
            rw [zpow_add₀ two_ne_zero, zpow_add₀ two_ne_zero, zpow_natCast 2 n]
        _ ≤ m * 2 ^ e * 2 ^ n := by gcongr
        _ ≤ 2 ^ (1024 : Int) := high
    have := (zpow_le_zpow_iff_right₀ (one_lt_two (α := ℚ))).1 bounded
    omega
  rw [map_toRat?_doublings normal full room, value_eq]
  simp

end Binary64

end TaskSieve
