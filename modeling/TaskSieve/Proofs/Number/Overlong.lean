import TaskSieve.Number.Overlong
import TaskSieve.Proofs.Number.Digits
import TaskSieve.Proofs.Number.Overflow
import TaskSieve.Proofs.Number.Shortest

set_option autoImplicit false

/-! # Integers that are short enough

An integer that was read can be written: its digits, whatever their script, and zeros among them,
write it with at most as many figures. So can every integer that has a floating-point number. -/

namespace TaskSieve

namespace Decimal

theorem width_le_iff {n k : Nat} (hk : 0 < k) : width n ≤ k ↔ n < 10 ^ k :=
  Nat.length_toDigits_le_iff (by omega) hk

theorem width_le_of_le {m n : Nat} (h : m ≤ n) : width m ≤ width n :=
  (width_le_iff Nat.length_toDigits_pos).2 (Nat.lt_of_le_of_lt h (lt_pow_width n))

/-- What follows a sign is a part of the text. -/
theorem sublist_takeSign (cs : List Char) : (takeSign cs).2.Sublist cs := by
  unfold takeSign
  split
  · exact List.sublist_cons_self _ _
  · exact List.sublist_cons_self _ _
  · exact List.Sublist.refl _

/-- The number that a text writes has no more digits than the text, which is not empty. -/
theorem width_digitsValue_le {cs : List Char} (hne : cs ≠ []) :
    width (Text.digitsValue cs) ≤ cs.length :=
  (width_le_iff (List.length_pos_iff.2 hne)).2 (Text.digitsValue_lt cs)

end Decimal

namespace Overlong

/-- What is read as an integer can be written. -/
theorem ofInt?_digitsValue {cs : List Char} (hne : cs ≠ []) (short : ofDigits? cs.length = none)
    (negative : Bool) :
    ofInt? (if negative then -(Text.digitsValue cs : Int) else Text.digitsValue cs) = none := by
  rw [ofDigits?_eq_none_iff] at short
  have hwidth := Decimal.width_digitsValue_le hne
  rw [ofInt?_eq_none_iff]
  cases negative <;> simpa using hwidth.trans short

/-- An integer with a sign that was read from digits, not too many of them, can be written. -/
theorem ofInt?_of_readInteger? {cs : List Char} {n : Int} (h : Decimal.readInteger? cs = some n)
    (short : cs.countP Char.isDigit ≤ digitLimit) : ofInt? n = none := by
  rw [Decimal.readInteger?] at h
  dsimp only at h
  split at h
  · next digits =>
    cases h
    refine ofInt?_digitsValue digits.1 (ofDigits?_eq_none_iff.2 (le_trans ?_ short)) _
    have hall : (Decimal.takeSign cs).2.countP Char.isDigit = (Decimal.takeSign cs).2.length :=
      List.countP_eq_length.2 (List.all_eq_true.1 digits.2)
    exact hall ▸ (Decimal.sublist_takeSign cs).countP_le
  · cases h

/-- An integer with a floating-point number can be written. -/
theorem ofInt?_of_binary64 {n : Int} {x : Binary64} (h : Binary64.ofInt? n = some x) :
    ofInt? n = none := by
  have hsmall : n.natAbs < Binary64.overflow := by
    rw [← Nat.not_le, ← Binary64.ofInt?_eq_none_iff, h]
    simp
  have hbound : Binary64.overflow < 10 ^ 309 := by decide +kernel
  refine ofInt?_eq_none_iff.2 (Nat.le_trans ((Decimal.width_le_iff (by decide)).2
    (hsmall.trans hbound)) (by decide))

/-! ## Results of several steps

Steps that are only there if nothing has too many digits fail for the first thing that has. -/

variable {α β γ : Type}

theorem guard_none (result : α) : guard none result = .ok result := rfl

theorem mapM_guard (found : α → Option Overlong) (result : α → β) (xs : List α) :
    xs.mapM (fun x => guard (found x) (result x)) =
      guard (xs.findSome? found) (xs.map result) := by
  induction xs with
  | nil => rfl
  | cons x xs ih =>
    rw [List.mapM_cons, ih, List.findSome?_cons]
    cases found x with
    | some o => rfl
    | none => cases xs.findSome? found <;> rfl

theorem foldlM_guard (found : α → Option Overlong) (result : α → β) (f : γ → α → β → γ) (c : γ)
    (xs : List α) :
    xs.foldlM (fun c x => (guard (found x) (result x)).map (f c x)) c =
      guard (xs.findSome? found) (xs.foldl (fun c x => f c x (result x)) c) := by
  induction xs generalizing c with
  | nil => rfl
  | cons x xs ih =>
    rw [List.foldlM_cons, List.findSome?_cons]
    cases found x with
    | some o => rfl
    | none => exact ih (f c x (result x))

end Overlong

end TaskSieve
