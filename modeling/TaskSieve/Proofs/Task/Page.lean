import TaskSieve.Task.Page

set_option autoImplicit false

/-! # Pages put together

Pages from the first one on are the elements that a reader sees who turns them: put together they are
the list up to the end of the last page. -/

namespace TaskSieve.Page

variable {α : Type}

/-- A window between places from the start of the list on. -/
theorem window_eq (start stop : Nat) (xs : List α) :
    window start stop xs = (xs.drop start).take (stop - start) := by
  have hplace : ∀ i : Nat, place xs.length i = min i xs.length := by
    intro i
    rw [place, if_neg (by omega), Int.toNat_natCast]
  rw [window, hplace, hplace]
  by_cases h : start ≤ xs.length
  · rw [Nat.min_eq_left h]
    by_cases h' : stop ≤ xs.length
    · rw [Nat.min_eq_left h']
    · -- the window reaches beyond the end
      have hlength : (xs.drop start).length = xs.length - start := List.length_drop
      rw [Nat.min_eq_right (by omega), List.take_of_length_le (by omega),
        List.take_of_length_le (by omega)]
  · rw [List.drop_eq_nil_of_le (by omega), List.drop_eq_nil_of_le (by omega), List.take_nil,
      List.take_nil]

/-- The page with the number `i + 1`. -/
theorem ofList_succ (i perPage : Nat) (xs : List α) :
    ofList (i + 1) perPage xs = (xs.drop (i * perPage)).take perPage := by
  have hstart : ((i : Int) + 1 - 1) * perPage = ((i * perPage : Nat) : Int) := by
    rw [Int.add_sub_cancel, Int.natCast_mul]
  rw [ofList, hstart, ← Int.natCast_add, window_eq, Nat.add_sub_cancel_left]

/-- The first pages, put together. -/
theorem flatMap_pages (n perPage : Nat) (xs : List α) :
    ((List.range n).flatMap fun i : Nat => ofList (i + 1) perPage xs) = xs.take (n * perPage) := by
  induction n with
  | zero => simp
  | succ n ih =>
    rw [List.range_succ, List.flatMap_append, ih, List.flatMap_singleton, ofList_succ,
      Nat.succ_mul, List.take_add]

/-- Behind a page that is not full there is nothing. -/
theorem drop_of_short {i j n : Nat} {xs : List α} (short : ((xs.drop (i * n)).take n).length < n)
    (h : i < j) : xs.drop (j * n) = [] := by
  have hle : (i + 1) * n ≤ j * n := Nat.mul_le_mul_right n h
  rw [List.length_take, List.length_drop] at short
  rw [Nat.succ_mul] at hle
  exact List.drop_eq_nil_of_le (by omega)

end TaskSieve.Page
