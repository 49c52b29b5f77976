set_option autoImplicit false

/-! # Cutting text

Texts are cut where a character stands: at the first place, at the last one, or at every one. -/

namespace TaskSieve.Text

variable {α : Type}

/-- Splits a list at every element that satisfies `p`; there is always one part more than such
elements. -/
def splitAtAll (p : α → Bool) : List α → List (List α)
  | [] => [[]]
  | a :: rest =>
    if p a then [] :: splitAtAll p rest
    else match splitAtAll p rest with
      | part :: parts => (a :: part) :: parts
      | [] => [[a]]

/-- The parts of a list before and after the first element that satisfies `p`, if there is one. -/
def cutAt (p : α → Bool) (xs : List α) : List α × Option (List α) :=
  match xs.dropWhile (!p ·) with
  | [] => (xs, none)
  | _ :: rest => (xs.takeWhile (!p ·), some rest)

/-- The parts of a list before and after the last element that satisfies `p`, if there is one. -/
def cutAtLast (p : α → Bool) (xs : List α) : Option (List α) × List α :=
  match cutAt p xs.reverse with
  | (after, some before) => (some before.reverse, after.reverse)
  | (_, none) => (none, xs)

end TaskSieve.Text
