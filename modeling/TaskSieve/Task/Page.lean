set_option autoImplicit false

/-! # Pages

A list is shown in pages of equal length, numbered from 1. A page is a window on the list; a
negative place in a window counts from the end of the list. -/

namespace TaskSieve.Page

/-- The place in a list of `length` elements that a signed number means. -/
def place (length : Nat) (i : Int) : Nat :=
  if i < 0 then (i + length).toNat else min i.toNat length

/-- The elements from `start` up to but not including `stop`. -/
def window {α : Type} (start stop : Int) (xs : List α) : List α :=
  let first := place xs.length start
  let last := place xs.length stop
  (xs.drop first).take (last - first)

/-- The elements of a page. -/
def ofList {α : Type} (page perPage : Int) (xs : List α) : List α :=
  let start := (page - 1) * perPage
  window start (start + perPage) xs

end TaskSieve.Page
