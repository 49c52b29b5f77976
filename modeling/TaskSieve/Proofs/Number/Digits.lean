import Mathlib.Algebra.Group.Nat.Defs
import Mathlib.Data.List.Basic
import Mathlib.Data.List.Induction
import TaskSieve.Number.Layout
import TaskSieve.Text.Blank
import TaskSieve.Text.Digit

set_option autoImplicit false

/-! # Plain digits

The decimal digits that numbers are written with are read as the numbers that they were written
for, also behind and before zeros. -/

namespace TaskSieve

namespace Text

theorem digitValue?_of_isDigit {c : Char} (h : c.isDigit = true) :
    digitValue? c = some (c.toNat - '0'.toNat) := by
  simp only [Char.isDigit, Bool.and_eq_true, decide_eq_true_eq, UInt32.le_iff_toNat_le,
    ge_iff_le] at h
  exact if_pos h

theorem digitValue?_lt {c : Char} {d : Nat} (h : digitValue? c = some d) : d < 10 := by
  simp only [digitValue?] at h
  split at h
  · obtain rfl := Option.some.inj h
    omega
  split at h
  · exact absurd h (by simp)
  · obtain ⟨z, hz, rfl⟩ := Option.map_eq_some_iff.1 h
    have := List.find?_some hz
    simp only [Bool.and_eq_true, decide_eq_true_eq] at this
    omega

theorem isDigit_of_isDigit {c : Char} (h : c.isDigit = true) : isDigit c = true := by
  rw [isDigit, digitValue?_of_isDigit h, Option.isSome_some]

theorem toLower_of_isDigit {c : Char} (h : c.isDigit = true) : c.toLower = c := by
  refine dif_neg ?_
  simp only [Char.isDigit, Bool.and_eq_true, decide_eq_true_eq, UInt32.le_iff_toNat_le,
    ge_iff_le] at h ⊢
  rintro ⟨hcapital, -⟩
  exact absurd (Nat.le_trans hcapital h.2) (by decide)

/-- A digit is one of the ten digits of a script. -/
theorem exists_zero_of_isDigit {c : Char} (h : isDigit c = true) :
    ∃ z ∈ digitZeros, ∃ k < 10, c.toNat = z + k := by
  have zero : 0x30 ∈ digitZeros := by decide
  obtain ⟨d, hd⟩ := Option.isSome_iff_exists.1 h
  simp only [digitValue?] at hd
  split at hd
  · exact ⟨0x30, zero, c.toNat - 0x30, by omega, by omega⟩
  split at hd
  · exact absurd hd (by simp)
  · obtain ⟨z, hz, -⟩ := Option.map_eq_some_iff.1 hd
    have := List.find?_some hz
    simp only [Bool.and_eq_true, decide_eq_true_eq] at this
    exact ⟨z, List.mem_of_find?_eq_some hz, c.toNat - z, by omega, by omega⟩

/-- No digit of any script is blank. -/
theorem isBlank_of_isDigit {c : Char} (h : isDigit c = true) : isBlank c = false := by
  have table : ∀ z ∈ digitZeros, ∀ k < 10, isBlank (Char.ofNat (z + k)) = false := by
    decide +kernel
  obtain ⟨z, hz, k, hk, hc⟩ := exists_zero_of_isDigit h
  have := table z hz k hk
  rwa [← hc, Char.ofNat_toNat] at this

/-- A text of so many characters writes a number below that power of ten. -/
theorem digitsValue_lt (cs : List Char) : digitsValue cs < 10 ^ cs.length := by
  induction cs using List.reverseRecOn with
  | nil => decide
  | append_singleton cs c ih =>
    have hpow := Nat.pow_succ 10 cs.length
    rw [List.length_append, List.length_singleton, digitsValue, List.foldl_concat,
      ← digitsValue]
    split
    · next d hd =>
      have := digitValue?_lt hd
      omega
    · omega

theorem digitsValue_of_isDigit {cs : List Char} (h : ∀ c ∈ cs, c.isDigit = true) :
    digitsValue cs = Nat.ofDigitChars 10 cs 0 := by
  rw [digitsValue, Nat.ofDigitChars_eq_foldl]
  generalize 0 = n
  induction cs generalizing n with
  | nil => rfl
  | cons c cs ih =>
    rw [List.foldl_cons, List.foldl_cons, digitValue?_of_isDigit (h c List.mem_cons_self)]
    exact ih (fun d hd => h d (List.mem_cons_of_mem c hd)) _

/-- A run of plain digits. -/
structure IsDigits (cs : List Char) : Prop where
  ne_nil : cs ≠ []
  all : ∀ c ∈ cs, c.isDigit = true

theorem IsDigits.append {cs ds : List Char} (h : IsDigits cs) (h' : IsDigits ds) :
    IsDigits (cs ++ ds) where
  ne_nil := by simp [h.ne_nil]
  all c hc := (List.mem_append.1 hc).elim (h.all c) (h'.all c)

theorem isDigit_of_mem_zeros {k : Nat} {c : Char} (h : c ∈ List.replicate k '0') :
    c.isDigit = true := by
  rw [List.eq_of_mem_replicate h]
  rfl

theorem isDigits_toDigits (n : Nat) : IsDigits (Nat.toDigits 10 n) where
  ne_nil := Nat.toDigits_ne_nil
  all _ := Nat.isDigit_of_mem_toDigits (by decide) (by decide)

theorem isDigits_zero : IsDigits ['0'] := isDigits_toDigits 0

theorem digitsValue_toDigits (n : Nat) : digitsValue (Nat.toDigits 10 n) = n := by
  rw [digitsValue_of_isDigit (isDigits_toDigits n).all]
  exact Nat.ofDigitChars_toDigits (by decide) (by decide)

/-- A positive number is not written with a zero in front. -/
theorem head?_toDigits {n : Nat} (hn : 0 < n) : (Nat.toDigits 10 n).head? ≠ some '0' := by
  induction n using Nat.strongRecOn with
  | ind n ih =>
    rw [Nat.toDigits_eq_if (by decide)]
    split
    · next h =>
      have hall : ∀ d < 10, 0 < d → [Nat.digitChar d].head? ≠ some '0' := by decide
      exact hall n h hn
    · rw [List.head?_append_of_ne_nil _ Nat.toDigits_ne_nil]
      exact ih (n / 10) (by omega) (by omega)

/-- Zeros before digits do not count. -/
theorem digitsValue_zeros_append (k : Nat) {cs : List Char} (h : ∀ c ∈ cs, c.isDigit = true) :
    digitsValue (List.replicate k '0' ++ cs) = digitsValue cs := by
  have hall : ∀ c ∈ List.replicate k '0' ++ cs, c.isDigit = true := fun c hc =>
    (List.mem_append.1 hc).elim isDigit_of_mem_zeros (h c)
  rw [digitsValue_of_isDigit hall, digitsValue_of_isDigit h, Nat.ofDigitChars_append,
    Nat.ofDigitChars_replicate_zero, Nat.mul_zero]

/-- Each zero behind digits multiplies their value by ten. -/
theorem digitsValue_append_zeros (k : Nat) {cs : List Char} (h : ∀ c ∈ cs, c.isDigit = true) :
    digitsValue (cs ++ List.replicate k '0') = 10 ^ k * digitsValue cs := by
  have hall : ∀ c ∈ cs ++ List.replicate k '0', c.isDigit = true := fun c hc =>
    (List.mem_append.1 hc).elim (h c) isDigit_of_mem_zeros
  rw [digitsValue_of_isDigit hall, digitsValue_of_isDigit h, Nat.ofDigitChars_append,
    Nat.ofDigitChars_replicate_zero]

end Text

theorem toList_integerText (n : Int) :
    (integerText n).toList =
      if n < 0 then '-' :: Nat.toDigits 10 n.natAbs else Nat.toDigits 10 n.natAbs := by
  rw [integerText]
  split
  · rw [String.toList_append, naturalText, String.toList_ofList, String.toList_ofList,
      List.singleton_append]
  · rw [naturalText, String.toList_ofList]

end TaskSieve
