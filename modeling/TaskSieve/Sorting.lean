set_option autoImplicit false

/-! # Sorting by bisection

A list is sorted by asking whether one element is below another, and a question may have no answer,
which leaves the whole list without an order. The elements at the start that rise already, or fall
strictly, are taken as they are; every later element goes behind those that it is not below, at the
place that halving finds. Under an order in which any two elements compare, this is the stable
sort. -/

namespace TaskSieve.Sorting

variable {α : Type}

/-- The place of an element in the stretch of a sorted list from `low` up to `high`. -/
def place? (below : α → α → Option Bool) (x : α) (sorted : List α) (low high : Nat) :
    Option Nat :=
  if low < high then
    match sorted[(low + high) / 2]? with
    | none => none
    | some y =>
      match below x y with
      | none => none
      | some true => place? below x sorted low ((low + high) / 2)
      | some false => place? below x sorted ((low + high) / 2 + 1) high
  else some low
termination_by high - low
decreasing_by
  · omega
  · omega

/-- Puts an element in its place in a sorted list. -/
def insert? (below : α → α → Option Bool) (sorted : List α) (x : α) : Option (List α) :=
  (place? below x sorted 0 sorted.length).map fun i => sorted.take i ++ x :: sorted.drop i

/-- How many elements go on falling, or not falling, from `last`. -/
def runLength? (below : α → α → Option Bool) (falling : Bool) (last : α) :
    List α → Option Nat
  | [] => some 0
  | x :: rest => do
    if (← below x last) == falling then
      let more ← runLength? below falling x rest
      some (more + 1)
    else some 0

/-- The list in order, if every pair that is looked at has one. -/
def sort? (below : α → α → Option Bool) : List α → Option (List α)
  | first :: second :: rest => do
    let falling ← below second first
    let more ← runLength? below falling second rest
    let run := first :: second :: rest.take more
    (rest.drop more).foldlM (insert? below) (if falling then run.reverse else run)
  | xs => some xs

/-- The list in descending order; elements that are equal keep their order. -/
def sortDescending? (below : α → α → Option Bool) (xs : List α) : Option (List α) :=
  (sort? below xs.reverse).map List.reverse

/-- An element that is put in its place is added to the list, and nothing else changes. -/
theorem insert?_perm {below : α → α → Option Bool} {sorted result : List α} {x : α}
    (h : insert? below sorted x = some result) : result.Perm (x :: sorted) := by
  obtain ⟨i, -, rfl⟩ := Option.map_eq_some_iff.1 h
  have hp : (sorted.take i ++ x :: sorted.drop i).Perm (x :: (sorted.take i ++ sorted.drop i)) :=
    List.perm_middle
  rwa [List.take_append_drop] at hp

end TaskSieve.Sorting
