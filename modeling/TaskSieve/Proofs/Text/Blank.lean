import Mathlib.Data.List.TakeWhile
import TaskSieve.Text.Blank

set_option autoImplicit false

/-! # Trimmed texts

Trimming takes away what stands at the ends, so a text that starts and ends with something else is
its own trimmed form. -/

namespace TaskSieve.Text

variable {α : Type} {p q : α → Bool} {xs : List α}

theorem dropWhile_of_head? (h : ∀ x ∈ xs.head?, p x = false) : xs.dropWhile p = xs := by
  cases xs with
  | nil => rfl
  | cons x xs => simp [h x rfl]

/-- A class takes what stands before the first character outside of it. -/
theorem takeWhile_append_of_head? {ys : List α} (h : ∀ x ∈ xs, p x = true)
    (hstop : ∀ y ∈ ys.head?, p y = false) : (xs ++ ys).takeWhile p = xs := by
  have hnone : ys.takeWhile p = [] := by
    cases ys with
    | nil => rfl
    | cons y ys => simp [hstop y rfl]
  rw [List.takeWhile_append_of_pos h, hnone, List.append_nil]

theorem dropWhile_append_of_head? {ys : List α} (h : ∀ x ∈ xs, p x = true)
    (hstop : ∀ y ∈ ys.head?, p y = false) : (xs ++ ys).dropWhile p = ys := by
  rw [List.dropWhile_append_of_pos h, dropWhile_of_head? hstop]

theorem trimWhile_of_ends (first : ∀ x ∈ xs.head?, p x = false)
    (last : ∀ x ∈ xs.getLast?, p x = false) : trimWhile p xs = xs := by
  have last' : ∀ x ∈ xs.reverse.head?, p x = false := by
    rwa [List.head?_reverse]
  rw [trimWhile, dropWhile_of_head? first, dropWhile_of_head? last', List.reverse_reverse]

/-- A text without blanks is its own trimmed form. -/
theorem trimWhile_of_none (h : ∀ x ∈ xs, p x = false) : trimWhile p xs = xs :=
  trimWhile_of_ends (fun x hx => h x (List.mem_of_mem_head? hx))
    fun x hx => h x (List.mem_of_mem_getLast? hx)

theorem trimWhile_eq_nil_iff : trimWhile p xs = [] ↔ ∀ x ∈ xs, p x = true := by
  rw [trimWhile, List.reverse_eq_nil_iff, List.dropWhile_eq_nil_iff]
  simp only [List.mem_reverse]
  constructor
  · intro h
    refine List.dropWhile_eq_nil_iff.1 ?_
    rw [List.eq_nil_iff_forall_not_mem]
    intro x hx
    have hne : xs.dropWhile p ≠ [] := List.ne_nil_of_mem hx
    exact absurd (h _ (List.head_mem hne)) (by simp [List.head_dropWhile_not p hne])
  · intro h x hx
    exact h x ((List.dropWhile_suffix p).mem hx)

theorem head?_trimWhile : ∀ x ∈ (trimWhile p xs).head?, p x = false := by
  intro x hx
  rw [trimWhile, List.head?_reverse] at hx
  -- what is kept at the back still has the first element that was kept at the front
  obtain ⟨front, hfront⟩ := List.dropWhile_suffix p (l := (xs.dropWhile p).reverse)
  have hlast : (xs.dropWhile p).reverse.getLast? = some x := by
    rw [← hfront, List.getLast?_append, Option.mem_def.1 hx]
    rfl
  rw [List.getLast?_reverse] at hlast
  have := List.head?_dropWhile_not p xs
  rw [hlast] at this
  simpa using this

theorem getLast?_trimWhile : ∀ x ∈ (trimWhile p xs).getLast?, p x = false := by
  intro x hx
  rw [trimWhile, List.getLast?_reverse] at hx
  have := List.head?_dropWhile_not p (xs.dropWhile p).reverse
  rw [Option.mem_def.1 hx] at this
  simpa using this

/-- Once a text is trimmed, nothing is left for a narrower idea of what is blank. -/
theorem trimWhile_trimWhile (h : ∀ x, q x = true → p x = true) :
    trimWhile q (trimWhile p xs) = trimWhile p xs := by
  have narrower : ∀ x, p x = false → q x = false := by
    intro x hx
    rw [← Bool.not_eq_true] at hx ⊢
    exact fun hq => hx (h x hq)
  exact trimWhile_of_ends (fun x hx => narrower x (head?_trimWhile x hx))
    fun x hx => narrower x (getLast?_trimWhile x hx)

/-- What stands around a trimmed text was trimmed. -/
theorem exists_trimWhile (q : α → Bool) (xs : List α) : ∃ front back,
    xs = front ++ (trimWhile q xs ++ back) ∧ (∀ x ∈ front, q x = true) ∧
      ∀ x ∈ back, q x = true := by
  have hfront := List.takeWhile_append_dropWhile (p := q) (l := xs)
  have hback := List.takeWhile_append_dropWhile (p := q) (l := (xs.dropWhile q).reverse)
  refine ⟨xs.takeWhile q, ((xs.dropWhile q).reverse.takeWhile q).reverse, ?_,
    fun x => List.mem_takeWhile_imp, fun x hx => List.mem_takeWhile_imp (List.mem_reverse.1 hx)⟩
  rw [trimWhile, ← List.reverse_append, hback, List.reverse_reverse, hfront]

/-- A text that holds nothing blank once it is trimmed of some blanks is then trimmed of all. -/
theorem trimWhile_eq_of_none (h : ∀ x, q x = true → p x = true)
    (hnone : ∀ x ∈ trimWhile q xs, p x = false) : trimWhile p xs = trimWhile q xs := by
  obtain ⟨front, back, hxs, hfront, hback⟩ := exists_trimWhile q xs
  generalize trimWhile q xs = ys at hxs hnone ⊢
  subst hxs
  cases ys with
  | nil =>
    refine trimWhile_eq_nil_iff.2 fun x hx => h x ?_
    rw [List.nil_append] at hx
    exact (List.mem_append.1 hx).elim (hfront x) (hback x)
  | cons y ys =>
    have hdrop : (front ++ (y :: ys ++ back)).dropWhile p = y :: ys ++ back := by
      rw [List.dropWhile_append_of_pos fun x hx => h x (hfront x hx), List.cons_append]
      exact dropWhile_of_head? fun x hx => Option.some.inj hx ▸ hnone y List.mem_cons_self
    have hlast : ∀ x ∈ (y :: ys).reverse.head?, p x = false := fun x hx =>
      hnone x (List.mem_reverse.1 (List.mem_of_mem_head? hx))
    rw [trimWhile, hdrop, List.reverse_append,
      List.dropWhile_append_of_pos fun x hx => h x (hback x (List.mem_reverse.1 hx)),
      dropWhile_of_head? hlast, List.reverse_reverse]

theorem isBlank_of_isSpace {c : Char} (h : isSpace c = true) : isBlank c = true := by
  rw [isSpace, Bool.and_eq_true] at h
  exact h.1

/-- Nothing blank is written as a letter. -/
theorem isBlank_of_toLower {c : Char} (h : isBlank c.toLower = false) : isBlank c = false := by
  by_cases hupper : 'A'.val ≤ c.val ∧ c.val ≤ 'Z'.val
  · have hlow : 65 ≤ c.toNat := hupper.1
    have hhigh : c.toNat ≤ 90 := hupper.2
    simp only [isBlank, Bool.or_eq_false_iff, Bool.and_eq_false_iff, decide_eq_false_iff_not,
      beq_eq_false_iff_ne]
    omega
  · have hsame : c.toLower = c := dif_neg hupper
    rwa [hsame] at h

/-- A spelling of a word without blanks, in any letter case, has none either. -/
theorem isBlank_of_map_toLower {cs : List Char}
    (word : (cs.map Char.toLower).all (!isBlank ·) = true) : ∀ c ∈ cs, isBlank c = false := by
  intro c hc
  have hlower := List.all_eq_true.1 word c.toLower (List.mem_map_of_mem hc)
  exact isBlank_of_toLower (by simpa using hlower)

end TaskSieve.Text
