import Mathlib.Data.Int.Order.Basic
import Mathlib.Data.List.Lex
import Mathlib.Algebra.Order.Ring.Rat
import Mathlib.Order.WithBot
import TaskSieve.Datum.Order
import TaskSieve.Proofs.Sorting.Stable

set_option autoImplicit false

/-! # Values of one kind are ordered

Whole numbers and truth values, texts, numbers, and dates that all have an offset or all have none
are each measured by a size of their kind, so that their order is one in which any two compare. -/

namespace TaskSieve

open Calendar (Stamp)

/-! ## Numbers -/

namespace Binary64

/-- The size of a number between those of the two infinities. -/
def size : Binary64 → WithBot (WithTop ℚ)
  | .nan => ⊥
  | .infinite negative => if negative then ⊥ else ((⊤ : WithTop ℚ) : WithBot (WithTop ℚ))
  | .finite s m e => ((value s m e : WithTop ℚ) : WithBot (WithTop ℚ))

theorem compareRat_eq_lt_iff (a b : Rat) : compareRat a b = .lt ↔ a < b := by
  unfold compareRat
  split
  · next h => simp [h]
  · next h => split <;> simp [h]

/-- What is a number is compared by its size. -/
theorem compare?_eq_lt_iff {x y : Binary64} (hx : x ≠ .nan) (hy : y ≠ .nan) :
    x.compare? y = some .lt ↔ x.size < y.size := by
  cases x with
  | nan => exact absurd rfl hx
  | infinite a =>
    cases y with
    | nan => exact absurd rfl hy
    | infinite b => cases a <;> cases b <;> simp [compare?, size]
    | finite s m e => cases a <;> simp [compare?, size]
  | finite s m e =>
    cases y with
    | nan => exact absurd rfl hy
    | infinite b =>
      cases b with
      | true => simp [compare?, size]
      | false => exact iff_of_true rfl (WithBot.coe_lt_coe.2 (WithTop.coe_lt_top _))
    | finite s' m' e' => simp [compare?, size, compareRat_eq_lt_iff]

end Binary64

namespace Datum

/-! ## Texts -/

theorem compareText_eq_lt_iff (a b : List Char) :
    compareText a b = .lt ↔ a.map Char.toNat < b.map Char.toNat := by
  induction a generalizing b with
  | nil => cases b <;> simp [compareText]
  | cons x a ih =>
    cases b with
    | nil => simp [compareText]
    | cons y b =>
      rw [compareText, List.map_cons, List.map_cons, List.cons_lt_cons_iff, ← ih]
      rcases lt_trichotomy x.toNat y.toNat with h | h | h
      · simp [Nat.compare_eq_lt.2 h, h]
      · simp [h]
      · simp [Nat.compare_eq_gt.2 h, h.not_gt, h.ne']

/-! ## Values -/

theorem beq_lt_eq_decide {o : Option Ordering} {p : Prop} [Decidable p] (h : o = some .lt ↔ p) :
    (o == some .lt) = decide p := by
  rw [Bool.eq_iff_iff, beq_iff_eq, decide_eq_true_eq, h]

theorem below?_int (m n : Int) : below? (.int m) (.int n) = some (decide (m < n)) := by
  refine congrArg some (beq_lt_eq_decide ?_)
  rw [Option.some.injEq, Int.compare_eq_lt]

theorem below?_bool (a b : Bool) : below? (.bool a) (.bool b) = some (decide (a < b)) := by
  cases a <;> cases b <;> decide

theorem below?_text (a b : String) : below? (.text a) (.text b) =
    some (decide (a.toList.map Char.toNat < b.toList.map Char.toNat)) := by
  refine congrArg some ?_
  rw [Bool.eq_iff_iff, beq_iff_eq, decide_eq_true_eq, compareText_eq_lt_iff]

theorem below?_num {x y : Binary64} (hx : x ≠ .nan) (hy : y ≠ .nan) :
    below? (.num x) (.num y) = some (decide (x.size < y.size)) :=
  congrArg some (beq_lt_eq_decide (Binary64.compare?_eq_lt_iff hx hy))

theorem below?_stamp {s s' : Stamp} (h : s.offset.isSome = s'.offset.isSome) :
    below? (.stamp s) (.stamp s') = some (decide (s.instant < s'.instant)) := by
  rw [below?, Stamp.compare?, if_pos h]
  refine congrArg some ?_
  rw [Bool.eq_iff_iff, beq_iff_eq, decide_eq_true_eq, Int.compare_eq_lt]

end Datum

end TaskSieve
