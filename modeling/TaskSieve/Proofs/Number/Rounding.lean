import Mathlib.Algebra.Order.Field.Power
import Mathlib.Tactic.FieldSimp
import Mathlib.Tactic.Linarith
import Mathlib.Tactic.NormNum
import Mathlib.Tactic.Positivity
import Mathlib.Tactic.Ring
import TaskSieve.Number.Decimal

set_option autoImplicit false

/-! # Rounding depends on the value alone

A quotient of naturals is rounded to 53 significant bits through its logarithms, and a decimal
through cutoffs on the number of its digits. Neither can be seen in the result: equal quotients are
rounded to the same number, and equal decimals too, however they are written. What is rounded to is
in normal form, and a number in normal form is what its exact value is rounded to. -/

namespace TaskSieve

namespace Binary64

/-! ## Nearest naturals -/

theorem roundQuotient_bounds (n d : Nat) :
    n / d ≤ roundQuotient n d ∧ roundQuotient n d ≤ n / d + 1 := by
  simp only [roundQuotient]
  split
  · omega
  · split
    · omega
    · split <;> omega

theorem roundQuotient_mul_self (m : Nat) {d : Nat} (hd : 0 < d) : roundQuotient (m * d) d = m := by
  have hr : m * d % d = 0 := Nat.mul_mod_left m d
  rw [roundQuotient, hr, Nat.mul_div_cancel m hd]
  exact if_pos (by omega)

theorem roundQuotient_of_lt_half {n d : Nat} (h : 2 * n < d) : roundQuotient n d = 0 := by
  have hr : n % d = n := Nat.mod_eq_of_lt (by omega)
  rw [roundQuotient, hr, Nat.div_eq_of_lt (by omega)]
  exact if_pos h

/-- Equal quotients are rounded to the same natural. -/
theorem roundQuotient_congr {n d n' d' : Nat} (hd : 0 < d) (hd' : 0 < d') (h : n * d' = n' * d) :
    roundQuotient n d = roundQuotient n' d' := by
  have hq : n / d = n' / d' := by
    rw [← Nat.mul_div_mul_right n d hd', h, Nat.mul_comm d d', Nat.mul_div_mul_right n' d' hd]
  have hr : n % d * d' = n' % d' * d := by
    rw [← Nat.mul_mod_mul_right, h, Nat.mul_comm d d', Nat.mul_mod_mul_right]
  -- the remainders compare with half of their divisors in the same way
  have below : 2 * (n % d) < d ↔ 2 * (n' % d') < d' := by
    calc 2 * (n % d) < d ↔ 2 * (n % d) * d' < d * d' := (Nat.mul_lt_mul_right hd').symm
      _ ↔ 2 * (n' % d') * d < d' * d := by
        rw [Nat.mul_assoc, hr, ← Nat.mul_assoc, Nat.mul_comm d d']
      _ ↔ 2 * (n' % d') < d' := Nat.mul_lt_mul_right hd
  have above : d < 2 * (n % d) ↔ d' < 2 * (n' % d') := by
    calc d < 2 * (n % d) ↔ d * d' < 2 * (n % d) * d' := (Nat.mul_lt_mul_right hd').symm
      _ ↔ d' * d < 2 * (n' % d') * d := by
        rw [Nat.mul_assoc 2, hr, ← Nat.mul_assoc, Nat.mul_comm d d']
      _ ↔ d' < 2 * (n' % d') := Nat.mul_lt_mul_right hd
  simp only [roundQuotient, hq, below, above]

/-- A greater quotient is not rounded to a lesser natural. -/
theorem roundQuotient_mono {n d n' d' : Nat} (hd : 0 < d) (hd' : 0 < d') (h : n * d' ≤ n' * d) :
    roundQuotient n d ≤ roundQuotient n' d' := by
  have hq : n / d ≤ n' / d' := by
    rw [Nat.le_div_iff_mul_le hd', ← Nat.mul_le_mul_right_iff hd]
    calc n / d * d' * d = n / d * d * d' := Nat.mul_right_comm _ _ _
      _ ≤ n * d' := Nat.mul_le_mul_right d' (Nat.div_mul_le_self n d)
      _ ≤ n' * d := h
  obtain ⟨-, hhigh⟩ := roundQuotient_bounds n d
  obtain ⟨hlow, -⟩ := roundQuotient_bounds n' d'
  rcases Nat.lt_or_eq_of_le hq with hlt | heq
  · omega
  -- with equal whole parts the remainders decide, each beside half of its divisor
  have hr : n % d * d' ≤ n' % d' * d := by
    have hn := Nat.div_add_mod n d
    have hn' := Nat.div_add_mod n' d'
    rw [← hn, ← hn', ← heq, Nat.add_mul, Nat.add_mul, Nat.mul_right_comm d,
      Nat.mul_right_comm d', Nat.mul_comm d d'] at h
    exact Nat.le_of_add_le_add_left h
  have half : d ≤ 2 * (n % d) → d' ≤ 2 * (n' % d') := by
    intro hle
    rw [← Nat.mul_le_mul_right_iff hd]
    calc d' * d = d * d' := Nat.mul_comm _ _
      _ ≤ 2 * (n % d) * d' := Nat.mul_le_mul_right d' hle
      _ = 2 * (n % d * d') := Nat.mul_assoc _ _ _
      _ ≤ 2 * (n' % d' * d) := Nat.mul_le_mul_left 2 hr
      _ = 2 * (n' % d') * d := (Nat.mul_assoc _ _ _).symm
  have beyond : d < 2 * (n % d) → d' < 2 * (n' % d') := by
    intro hlt
    rw [← Nat.mul_lt_mul_right hd]
    calc d' * d = d * d' := Nat.mul_comm _ _
      _ < 2 * (n % d) * d' := Nat.mul_lt_mul_of_pos_right hlt hd'
      _ = 2 * (n % d * d') := Nat.mul_assoc _ _ _
      _ ≤ 2 * (n' % d' * d) := Nat.mul_le_mul_left 2 hr
      _ = 2 * (n' % d') * d := (Nat.mul_assoc _ _ _).symm
  simp only [roundQuotient, ← heq]
  split_ifs <;> omega

/-! ## Units -/

/-- A quotient measured in units of `2 ^ e` is that quotient divided by the unit. -/
theorem inUnits_spec (num : Nat) {den : Nat} (hden : 0 < den) (e : Int) :
    0 < (inUnits num den e).2 ∧
      ((inUnits num den e).1 : ℚ) / (inUnits num den e).2 = (num : ℚ) / den / 2 ^ e := by
  have hden' : (den : ℚ) ≠ 0 := by positivity
  rw [inUnits]
  split
  · next h =>
    obtain ⟨k, rfl⟩ := Int.eq_ofNat_of_zero_le h
    constructor
    · exact Nat.mul_pos hden (Nat.two_pow_pos k)
    · simp [div_div]
  · next h =>
    obtain ⟨k, hk⟩ := Int.eq_ofNat_of_zero_le (a := -e) (by omega)
    obtain rfl : e = -(k : Int) := by omega
    constructor
    · exact hden
    · simp [zpow_neg]
      ring

/-- The exponent of the unit in which a positive number has 53 significant bits, or the least
exponent if it has fewer there. -/
structure HasUnit (q : ℚ) (e : Int) : Prop where
  least : -1074 ≤ e
  lt : q < 2 ^ (53 + e)
  le : e = -1074 ∨ 2 ^ (52 + e) ≤ q

theorem HasUnit.mono {q q' : ℚ} {e e' : Int} (h : HasUnit q e) (h' : HasUnit q' e')
    (hq : q ≤ q') : e ≤ e' := by
  by_contra hlt
  rcases h.le with heq | hle
  · have := h'.least
    omega
  · have : (2 : ℚ) ^ (53 + e') ≤ 2 ^ (52 + e) := zpow_le_zpow_right₀ (by norm_num) (by omega)
    exact absurd (lt_of_lt_of_le h'.lt (this.trans (hle.trans hq))) (lt_irrefl q')

theorem HasUnit.unique {q : ℚ} {e e' : Int} (h : HasUnit q e) (h' : HasUnit q e') : e = e' :=
  le_antisymm (h.mono h' (le_refl q)) (h'.mono h (le_refl q))

theorem log2_bounds {n : Nat} (hn : 0 < n) :
    (2 : ℚ) ^ (n.log2 : Int) ≤ n ∧ (n : ℚ) < 2 ^ ((n.log2 : Int) + 1) := by
  constructor
  · rw [zpow_natCast]
    exact_mod_cast Nat.log2_self_le hn.ne'
  · have : n < 2 ^ (n.log2 + 1) := Nat.lt_log2_self
    have cast : ((n.log2 : Int) + 1) = ((n.log2 + 1 : Nat) : Int) := by omega
    rw [cast, zpow_natCast]
    exact_mod_cast this

/-- The logarithms leave two candidates, and the quotient in units of the first one decides. -/
theorem hasUnit_unitExponent {num den : Nat} (hnum : 0 < num) (hden : 0 < den) :
    HasUnit ((num : ℚ) / den) (unitExponent num den) := by
  obtain ⟨hnum₁, hnum₂⟩ := log2_bounds hnum
  obtain ⟨hden₁, hden₂⟩ := log2_bounds hden
  have hden' : (0 : ℚ) < den := by exact_mod_cast hden
  have two : (2 : ℚ) ≠ 0 := by norm_num
  have lower : (2 : ℚ) ^ ((num.log2 : Int) - den.log2 - 1) ≤ (num : ℚ) / den := by
    rw [le_div_iff₀ hden']
    calc (2 : ℚ) ^ ((num.log2 : Int) - den.log2 - 1) * den
        ≤ 2 ^ ((num.log2 : Int) - den.log2 - 1) * 2 ^ ((den.log2 : Int) + 1) := by gcongr
      _ = 2 ^ (num.log2 : Int) := by
          rw [← zpow_add₀ two]
          congr 1
          omega
      _ ≤ num := hnum₁
  have upper : (num : ℚ) / den < 2 ^ ((num.log2 : Int) - den.log2 + 1) := by
    rw [div_lt_iff₀ hden']
    calc (num : ℚ) < 2 ^ ((num.log2 : Int) + 1) := hnum₂
      _ = 2 ^ ((num.log2 : Int) - den.log2 + 1) * 2 ^ (den.log2 : Int) := by
          rw [← zpow_add₀ two]
          congr 1
          omega
      _ ≤ 2 ^ ((num.log2 : Int) - den.log2 + 1) * den := by gcongr
  rw [unitExponent]
  generalize he : max (-1074) ((num.log2 : Int) - den.log2 - 53) = e
  obtain ⟨hd, hq⟩ := inUnits_spec num hden e
  generalize inUnits num den e = unit at hd hq
  obtain ⟨n, d⟩ := unit
  dsimp only at hd hq ⊢
  have hd' : (0 : ℚ) < d := by exact_mod_cast hd
  have decided : n / d < Nat.pow 2 53 ↔ (num : ℚ) / den < 2 ^ (53 + e) := by
    rw [Nat.div_lt_iff_lt_mul hd, zpow_add₀ two, ← div_lt_iff₀ (by positivity), ← hq,
      div_lt_iff₀ hd']
    norm_cast
  by_cases hlt : (num : ℚ) / den < 2 ^ (53 + e)
  · rw [if_pos (decided.2 hlt)]
    refine ⟨by omega, hlt, ?_⟩
    by_cases hleast : e = -1074
    · exact .inl hleast
    · have : 52 + e = (num.log2 : Int) - den.log2 - 1 := by omega
      exact .inr (this ▸ lower)
  · rw [if_neg (mt decided.1 hlt)]
    refine ⟨by omega, ?_, .inr ?_⟩
    · exact lt_of_lt_of_le upper (zpow_le_zpow_right₀ (by norm_num) (by omega))
    · have : 52 + (e + 1) = 53 + e := by omega
      rw [this]
      exact not_lt.1 hlt

/-! ## Nearest numbers -/

/-- Rounding is rounding to a natural in the unit of the quotient, however the quotient in that unit
is written. -/
theorem ofQuotient_of_hasUnit {num den n d : Nat} {e : Int} (s : Bool) (hnum : 0 < num)
    (hden : 0 < den) (h : HasUnit ((num : ℚ) / den) e) (hd : 0 < d)
    (hq : (n : ℚ) / d = (num : ℚ) / den / 2 ^ e) :
    ofQuotient s num den =
      if roundQuotient n d = Nat.pow 2 53 then bounded s (Nat.pow 2 52) (e + 1)
      else bounded s (roundQuotient n d) e := by
  obtain rfl := (hasUnit_unitExponent hnum hden).unique h
  obtain ⟨hd', hq'⟩ := inUnits_spec num hden (unitExponent num den)
  have cross : (inUnits num den (unitExponent num den)).1 * d =
      n * (inUnits num den (unitExponent num den)).2 := by
    have := hq'.trans hq.symm
    rw [div_eq_div_iff (by positivity) (by positivity)] at this
    exact_mod_cast this
  rw [ofQuotient, if_neg hnum.ne']
  dsimp only
  rw [roundQuotient_congr hd' hd cross]

/-- Equal quotients are rounded to the same number. -/
theorem ofQuotient_congr {num den num' den' : Nat} (s : Bool) (hden : 0 < den) (hden' : 0 < den')
    (h : (num : ℚ) / den = num' / den') : ofQuotient s num den = ofQuotient s num' den' := by
  have cross : num * den' = num' * den := by
    rw [div_eq_div_iff (by positivity) (by positivity)] at h
    exact_mod_cast h
  rcases Nat.eq_zero_or_pos num with rfl | hnum
  · have hnum' : num' = 0 := by
      rw [Nat.zero_mul] at cross
      exact (Nat.mul_eq_zero.1 cross.symm).resolve_right hden.ne'
    rw [hnum', ofQuotient, ofQuotient, if_pos rfl, if_pos rfl]
  · have hnum' : 0 < num' := by
      rcases Nat.eq_zero_or_pos num' with rfl | hnum'
      · rw [Nat.zero_mul] at cross
        exact absurd cross (Nat.mul_pos hnum hden').ne'
      · exact hnum'
    have hunit := hasUnit_unitExponent hnum' hden'
    obtain ⟨hd, hq⟩ := inUnits_spec num' hden' (unitExponent num' den')
    rw [ofQuotient_of_hasUnit s hnum hden (h ▸ hunit) hd (h ▸ hq),
      ofQuotient_of_hasUnit s hnum' hden' hunit hd hq]

/-! ## Normal forms -/

/-- A significand and an exponent are in normal form: all 53 bits are used, unless the exponent is
the least one. -/
structure IsNormal (m : Nat) (e : Int) : Prop where
  least : -1074 ≤ e
  greatest : e ≤ 971
  lt : m < Nat.pow 2 53
  le : e = -1074 ∨ Nat.pow 2 52 ≤ m

/-- A finite number is in normal form. -/
def Canonical : Binary64 → Prop
  | finite _ m e => IsNormal m e
  | _ => True

theorem canonical_bounded {m : Nat} {e : Int} (s : Bool) (least : -1074 ≤ e)
    (lt : m < Nat.pow 2 53) (le : e = -1074 ∨ Nat.pow 2 52 ≤ m) : (bounded s m e).Canonical := by
  rw [bounded]
  split
  · trivial
  · exact ⟨least, by omega, lt, le⟩

theorem canonical_zero (s : Bool) : (finite s 0 (-1074)).Canonical :=
  ⟨by omega, by omega, Nat.two_pow_pos 53, .inl rfl⟩

/-- What is rounded to is in normal form. -/
theorem canonical_ofQuotient (s : Bool) (num : Nat) {den : Nat} (hden : 0 < den) :
    (ofQuotient s num den).Canonical := by
  rcases Nat.eq_zero_or_pos num with rfl | hnum
  · rw [ofQuotient, if_pos rfl]
    exact canonical_zero s
  · have hunit := hasUnit_unitExponent hnum hden
    obtain ⟨hd, hq⟩ := inUnits_spec num hden (unitExponent num den)
    rw [ofQuotient_of_hasUnit s hnum hden hunit hd hq]
    generalize unitExponent num den = e at hunit hd hq ⊢
    generalize inUnits num den e = unit at hd hq ⊢
    obtain ⟨n, d⟩ := unit
    dsimp only at hd hq ⊢
    have two : (2 : ℚ) ≠ 0 := by norm_num
    have hd' : (0 : ℚ) < d := by exact_mod_cast hd
    obtain ⟨hlow, hhigh⟩ := roundQuotient_bounds n d
    split
    · exact canonical_bounded s (by have := hunit.least; omega) (by decide) (.inr (Nat.le_refl _))
    · next hne =>
      -- the quotient in its unit is below `2 ^ 53`, and so is what it is rounded to
      have hlt : n / d < Nat.pow 2 53 := by
        have := hunit.lt
        rw [zpow_add₀ two, ← div_lt_iff₀ (by positivity), ← hq, div_lt_iff₀ hd'] at this
        rw [Nat.div_lt_iff_lt_mul hd]
        exact_mod_cast this
      refine canonical_bounded s hunit.least (by omega) ?_
      rcases hunit.le with heq | hle
      · exact .inl heq
      · right
        rw [zpow_add₀ two, ← le_div_iff₀ (by positivity), ← hq, le_div_iff₀ hd'] at hle
        have : Nat.pow 2 52 ≤ n / d := by
          rw [Nat.le_div_iff_mul_le hd]
          exact_mod_cast hle
        exact this.trans hlow

theorem IsNormal.hasUnit {m : Nat} {e : Int} (h : IsNormal m e) : HasUnit ((m : ℚ) * 2 ^ e) e := by
  have two : (2 : ℚ) ≠ 0 := by norm_num
  have hpos : (0 : ℚ) < 2 ^ e := by positivity
  refine ⟨h.least, ?_, ?_⟩
  · rw [zpow_add₀ two, mul_lt_mul_iff_left₀ hpos]
    exact_mod_cast h.lt
  · rcases h.le with heq | hle
    · exact .inl heq
    · right
      rw [zpow_add₀ two, mul_le_mul_iff_left₀ hpos]
      exact_mod_cast hle

/-- A number in normal form is what its exact value is rounded to. -/
theorem ofQuotient_of_isNormal {num den m : Nat} {e : Int} (s : Bool) (h : IsNormal m e)
    (hm : 0 < m) (hden : 0 < den) (hq : (num : ℚ) / den = m * 2 ^ e) :
    ofQuotient s num den = finite s m e := by
  have hnum : 0 < num := by
    have : (0 : ℚ) < num / den := hq ▸ by positivity
    rcases Nat.eq_zero_or_pos num with rfl | hnum
    · simp at this
    · exact hnum
  have hunit : (m : ℚ) / (1 : Nat) = (num : ℚ) / den / 2 ^ e := by
    rw [hq, Nat.cast_one, div_one, mul_div_cancel_right₀ _ (by positivity)]
  have hround : roundQuotient m 1 = m := by
    simpa using roundQuotient_mul_self m (d := 1) (by omega)
  rw [ofQuotient_of_hasUnit s hnum hden (hq ▸ h.hasUnit) (by omega) hunit, hround,
    if_neg h.lt.ne, bounded, if_neg (by have := h.greatest; omega)]

/-! ## Order -/

/-- The size of what a positive quotient is rounded to is a natural of its units. -/
theorem size_ofQuotient {num den n d m : Nat} {e e' : Int} {s s' : Bool} (hnum : 0 < num)
    (hden : 0 < den) (h : HasUnit ((num : ℚ) / den) e) (hd : 0 < d)
    (hq : (n : ℚ) / d = (num : ℚ) / den / 2 ^ e) (hround : ofQuotient s num den = finite s' m e') :
    (m : ℚ) * 2 ^ e' = roundQuotient n d * 2 ^ e := by
  rw [ofQuotient_of_hasUnit s hnum hden h hd hq, bounded, bounded] at hround
  split at hround
  · next hfull =>
    split at hround
    · exact absurd hround (by simp)
    · obtain ⟨-, rfl, rfl⟩ := finite.inj hround
      have two : (2 : ℚ) ≠ 0 := by norm_num
      rw [hfull, zpow_add₀ two]
      push_cast
      ring
  · split at hround
    · exact absurd hround (by simp)
    · obtain ⟨-, rfl, rfl⟩ := finite.inj hround
      rfl

/-- A greater quotient is not rounded to a smaller number. -/
theorem ofQuotient_mono {num den num' den' m m' : Nat} {e e' : Int} {s s' t t' : Bool}
    (hden : 0 < den) (hden' : 0 < den') (hle : (num : ℚ) / den ≤ num' / den')
    (h : ofQuotient s num den = finite t m e) (h' : ofQuotient s' num' den' = finite t' m' e') :
    (m : ℚ) * 2 ^ e ≤ m' * 2 ^ e' := by
  rcases Nat.eq_zero_or_pos num with rfl | hnum
  · rw [ofQuotient, if_pos rfl] at h
    obtain ⟨-, rfl, -⟩ := finite.inj h
    rw [Nat.cast_zero, zero_mul]
    positivity
  have hnum' : 0 < num' := by
    have : (0 : ℚ) < num' / den' := lt_of_lt_of_le (by positivity) hle
    rcases Nat.eq_zero_or_pos num' with rfl | hnum'
    · simp at this
    · exact hnum'
  have hunit := hasUnit_unitExponent hnum hden
  have hunit' := hasUnit_unitExponent hnum' hden'
  obtain ⟨hd, hq⟩ := inUnits_spec num hden (unitExponent num den)
  obtain ⟨hd', hq'⟩ := inUnits_spec num' hden' (unitExponent num' den')
  rw [size_ofQuotient hnum hden hunit hd hq h, size_ofQuotient hnum' hden' hunit' hd' hq' h']
  generalize unitExponent num den = u at hunit hd hq ⊢
  generalize unitExponent num' den' = u' at hunit' hd' hq' ⊢
  generalize inUnits num den u = unit at hd hq ⊢
  generalize inUnits num' den' u' = unit' at hd' hq' ⊢
  obtain ⟨n, d⟩ := unit
  obtain ⟨n', d'⟩ := unit'
  dsimp only at hd hq hd' hq' ⊢
  have hdq : (0 : ℚ) < d := by exact_mod_cast hd
  have hdq' : (0 : ℚ) < d' := by exact_mod_cast hd'
  have two : (2 : ℚ) ≠ 0 := by norm_num
  rcases eq_or_lt_of_le (hunit.mono hunit' hle) with rfl | hlt
  · have hratio : (n : ℚ) / d ≤ n' / d' := by
      rw [hq, hq']
      gcongr
    rw [div_le_div_iff₀ hdq hdq'] at hratio
    have := roundQuotient_mono hd hd' (by exact_mod_cast hratio)
    gcongr
  · -- the lesser number has at most `2 ^ 53` of its units, the greater at least `2 ^ 52` of its own
    have hlow : roundQuotient n d ≤ 2 ^ 53 := by
      have hbelow := hunit.lt
      rw [zpow_add₀ two, ← div_lt_iff₀ (by positivity), ← hq, div_lt_iff₀ hdq] at hbelow
      have : n / d < 2 ^ 53 := (Nat.div_lt_iff_lt_mul hd).2 (by exact_mod_cast hbelow)
      have := (roundQuotient_bounds n d).2
      omega
    have hhigh : 2 ^ 52 ≤ roundQuotient n' d' := by
      have habove := hunit'.le.resolve_left (by have := hunit.least; omega)
      rw [zpow_add₀ two, ← le_div_iff₀ (by positivity), ← hq', le_div_iff₀ hdq'] at habove
      have : 2 ^ 52 ≤ n' / d' := (Nat.le_div_iff_mul_le hd').2 (by exact_mod_cast habove)
      exact this.trans (roundQuotient_bounds n' d').1
    calc (roundQuotient n d : ℚ) * 2 ^ u ≤ 2 ^ 53 * 2 ^ u := by
          gcongr
          exact_mod_cast hlow
      _ = 2 ^ (53 + u) := by rw [zpow_add₀ two]; norm_num
      _ ≤ 2 ^ (52 + u') := zpow_le_zpow_right₀ (by norm_num) (by omega)
      _ = 2 ^ 52 * 2 ^ u' := by rw [zpow_add₀ two]; norm_num
      _ ≤ roundQuotient n' d' * 2 ^ u' := by
          gcongr
          exact_mod_cast hhigh

/-! ## Out of range -/

/-- What lies beyond the largest number is rounded to an infinity. -/
theorem ofQuotient_of_large {num den : Nat} (s : Bool) (hden : 0 < den)
    (h : (2 : ℚ) ^ (1024 : Int) ≤ (num : ℚ) / den) : ofQuotient s num den = infinite s := by
  have hnum : 0 < num := by
    rcases Nat.eq_zero_or_pos num with rfl | hnum
    · rw [Nat.cast_zero, zero_div] at h
      exact absurd h (not_le.2 (by positivity))
    · exact hnum
  have hunit := hasUnit_unitExponent hnum hden
  obtain ⟨hd, hq⟩ := inUnits_spec num hden (unitExponent num den)
  rw [ofQuotient_of_hasUnit s hnum hden hunit hd hq]
  generalize unitExponent num den = e at hunit ⊢
  have he : 971 < e := by
    by_contra hle
    have : (2 : ℚ) ^ (53 + e) ≤ 2 ^ (1024 : Int) := zpow_le_zpow_right₀ (by norm_num) (by omega)
    exact absurd (lt_of_lt_of_le hunit.lt (this.trans h)) (lt_irrefl _)
  split
  · exact if_pos (by omega)
  · exact if_pos he

/-- What is smaller than half of the least number is rounded to zero. -/
theorem ofQuotient_of_small {num den : Nat} (s : Bool) (hden : 0 < den)
    (h : (num : ℚ) / den < 2 ^ (-1075 : Int)) : ofQuotient s num den = finite s 0 (-1074) := by
  rcases Nat.eq_zero_or_pos num with rfl | hnum
  · rw [ofQuotient, if_pos rfl]
  have hunit : HasUnit ((num : ℚ) / den) (-1074) := by
    refine ⟨by omega, h.trans ?_, .inl rfl⟩
    exact zpow_lt_zpow_right₀ (by norm_num) (by omega)
  obtain ⟨hd, hq⟩ := inUnits_spec num hden (-1074)
  rw [ofQuotient_of_hasUnit s hnum hden hunit hd hq]
  generalize inUnits num den (-1074) = unit at hd hq ⊢
  obtain ⟨n, d⟩ := unit
  dsimp only at hd hq ⊢
  have hhalf : 2 * n < d := by
    have hd' : (0 : ℚ) < d := by exact_mod_cast hd
    have : (n : ℚ) / d < 1 / 2 := by
      rw [hq, div_lt_iff₀ (by positivity)]
      calc (num : ℚ) / den < 2 ^ (-1075 : Int) := h
        _ = 2 ^ (-1 : Int) * 2 ^ (-1074 : Int) := (zpow_add₀ (two_ne_zero) (-1) (-1074))
        _ = 1 / 2 * 2 ^ (-1074 : Int) := by rw [zpow_neg_one, one_div]
    rw [div_lt_div_iff₀ hd' (by norm_num)] at this
    have : n * 2 < 1 * d := by exact_mod_cast this
    omega
  rw [roundQuotient_of_lt_half hhalf]
  rfl

end Binary64

end TaskSieve
