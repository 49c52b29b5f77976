import TaskSieve.Sorting

set_option autoImplicit false

/-! # Sorting keeps the elements

Whatever the questions are answered, sorting gives the elements that there were, each as often as
before. It gives something as soon as every question that it can ask has an answer, and only if no
two elements lie on different sides of a divide that no question crosses. -/

namespace TaskSieve.Sorting

variable {α : Type} {below : α → α → Option Bool} {xs : List α}

/-- Any two elements of a list can be compared. -/
def Comparable (below : α → α → Option Bool) (xs : List α) : Prop :=
  ∀ a ∈ xs, ∀ b ∈ xs, ∃ answer, below a b = some answer

theorem Comparable.mono {ys : List α} (h : Comparable below ys) (hsub : xs ⊆ ys) :
    Comparable below xs :=
  fun a ha b hb => h a (hsub ha) b (hsub hb)

/-! ## Inserting -/

theorem exists_place {sorted : List α} {x : α}
    (h : ∀ y ∈ sorted, ∃ answer, below x y = some answer) (low high : Nat)
    (hhigh : high ≤ sorted.length) : ∃ i, place? below x sorted low high = some i := by
  fun_induction place? below x sorted low high with
  | case1 low high hlt hnone =>
    exact absurd (List.getElem?_eq_none_iff.1 hnone) (by omega)
  | case2 low high hlt y hy hnone =>
    obtain ⟨answer, hanswer⟩ := h y (List.mem_of_getElem? hy)
    exact absurd (hnone.symm.trans hanswer) (by simp)
  | case3 low high hlt y hy hbelow ih => exact ih (by omega)
  | case4 low high hlt y hy hbelow ih => exact ih hhigh
  | case5 low high hlt => exact ⟨low, rfl⟩

theorem exists_insert {sorted : List α} {x : α}
    (h : ∀ y ∈ sorted, ∃ answer, below x y = some answer) :
    ∃ result, insert? below sorted x = some result := by
  obtain ⟨i, hi⟩ := exists_place h 0 sorted.length (Nat.le_refl _)
  exact ⟨_, by rw [insert?, hi]; rfl⟩

/-- Inserting several elements adds them and takes none away. -/
theorem foldlM_insert_perm {sorted result : List α}
    (h : xs.foldlM (insert? below) sorted = some result) : result.Perm (sorted ++ xs) := by
  induction xs generalizing sorted with
  | nil =>
    obtain rfl := Option.some.inj h
    rw [List.append_nil]
  | cons x xs ih =>
    obtain ⟨inserted, hinsert, hrest⟩ := Option.bind_eq_some_iff.1 h
    calc List.Perm result (inserted ++ xs) := ih hrest
      List.Perm _ (x :: sorted ++ xs) := (insert?_perm hinsert).append_right xs
      List.Perm _ (sorted ++ x :: xs) := List.perm_middle.symm

theorem exists_foldlM_insert {sorted : List α} (h : Comparable below (sorted ++ xs)) :
    ∃ result, xs.foldlM (insert? below) sorted = some result := by
  induction xs generalizing sorted with
  | nil => exact ⟨sorted, rfl⟩
  | cons x xs ih =>
    have hx : x ∈ sorted ++ x :: xs := List.mem_append_right sorted List.mem_cons_self
    obtain ⟨inserted, hinsert⟩ :=
      exists_insert fun y hy => h x hx y (List.mem_append_left _ hy)
    -- what has been inserted is compared with the later elements
    have hsub : inserted ++ xs ⊆ sorted ++ x :: xs := by
      have hperm : (inserted ++ xs).Perm (sorted ++ x :: xs) :=
        ((insert?_perm hinsert).append_right xs).trans List.perm_middle.symm
      exact hperm.subset
    obtain ⟨result, hresult⟩ := ih (h.mono hsub)
    exact ⟨result, by rw [List.foldlM_cons, hinsert]; exact hresult⟩

/-! ## Sorting -/

theorem exists_runLength (falling : Bool) {last : α} (h : Comparable below (last :: xs)) :
    ∃ n, runLength? below falling last xs = some n := by
  induction xs generalizing last with
  | nil => exact ⟨0, rfl⟩
  | cons x xs ih =>
    obtain ⟨answer, hanswer⟩ := h x (by simp) last (by simp)
    obtain ⟨n, hn⟩ := ih (h.mono (List.subset_cons_self last (x :: xs)))
    simp only [runLength?, hanswer, hn, Option.bind_eq_bind, Option.bind_some]
    split <;> exact ⟨_, rfl⟩

/-- The elements at the start that go on as they began, whichever way, and the later ones. -/
theorem run_append_perm (falling : Bool) (first second : α) (rest : List α) (more : Nat) :
    ((if falling then (first :: second :: rest.take more).reverse
      else first :: second :: rest.take more) ++ rest.drop more).Perm
        (first :: second :: rest) := by
  have whole : first :: second :: rest =
      (first :: second :: rest.take more) ++ rest.drop more := by
    rw [List.cons_append, List.cons_append, List.take_append_drop]
  rw [whole]
  cases falling with
  | false => rfl
  | true => exact (List.reverse_perm _).append_right _

/-- A sorted list has the elements of the list that it was sorted from. -/
theorem sort?_perm {result : List α} (h : sort? below xs = some result) : result.Perm xs := by
  unfold sort? at h
  split at h
  · next first second rest =>
    obtain ⟨falling, -, h⟩ := Option.bind_eq_some_iff.1 h
    obtain ⟨more, -, h⟩ := Option.bind_eq_some_iff.1 h
    exact (foldlM_insert_perm h).trans (run_append_perm falling first second rest more)
  · obtain rfl := Option.some.inj h
    rfl

/-- A list whose elements can be compared can be sorted. -/
theorem exists_sort (h : Comparable below xs) : ∃ result, sort? below xs = some result := by
  unfold sort?
  split
  · next first second rest =>
    obtain ⟨falling, hfalling⟩ := h second (by simp) first (by simp)
    obtain ⟨more, hmore⟩ :=
      exists_runLength falling (h.mono (List.subset_cons_self first (second :: rest)))
    have hperm := run_append_perm falling first second rest more
    obtain ⟨result, hresult⟩ := exists_foldlM_insert (h.mono hperm.subset)
    refine ⟨result, ?_⟩
    simp only [hfalling, hmore, Option.bind_eq_bind, Option.bind_some]
    exact hresult
  · exact ⟨xs, rfl⟩

theorem sortDescending?_perm {result : List α} (h : sortDescending? below xs = some result) :
    result.Perm xs := by
  obtain ⟨sorted, hsorted, rfl⟩ := Option.map_eq_some_iff.1 h
  exact (List.reverse_perm sorted).trans ((sort?_perm hsorted).trans (List.reverse_perm xs))

theorem exists_sortDescending (h : Comparable below xs) :
    ∃ result, sortDescending? below xs = some result := by
  obtain ⟨sorted, hsorted⟩ := exists_sort (h.mono (List.reverse_perm xs).subset)
  exact ⟨_, by rw [sortDescending?, hsorted]; rfl⟩

/-! ## Divided lists

Every element is asked about beside one that was there before it, so a list that is sorted lies on
one side of whatever the answers do not cross. -/

section Divided

variable {β : Type} {side : α → β}

/-- Whether only elements on one side have an answer. -/
def Divides (below : α → α → Option Bool) (side : α → β) : Prop :=
  ∀ a b answer, below a b = some answer → side a = side b

theorem side_eq_of_place (h : Divides below side) {sorted : List α} {x : α} {low high i : Nat}
    (hlt : low < high) (hplace : place? below x sorted low high = some i) :
    ∃ y ∈ sorted, side x = side y := by
  rw [place?, if_pos hlt] at hplace
  split at hplace
  · cases hplace
  next y hy =>
  split at hplace
  · cases hplace
  · next hbelow => exact ⟨y, List.mem_of_getElem? hy, h _ _ _ hbelow⟩
  · next hbelow => exact ⟨y, List.mem_of_getElem? hy, h _ _ _ hbelow⟩

theorem side_eq_of_insert (h : Divides below side) {first : α} {sorted result : List α} {x : α}
    (hfirst : first ∈ sorted) (hside : ∀ a ∈ sorted, side a = side first)
    (hinsert : insert? below sorted x = some result) : side x = side first := by
  obtain ⟨i, hi, -⟩ := Option.map_eq_some_iff.1 hinsert
  obtain ⟨y, hy, heq⟩ := side_eq_of_place h (List.length_pos_of_mem hfirst) hi
  exact heq.trans (hside y hy)

theorem side_eq_of_foldlM_insert (h : Divides below side) {first : α} {sorted result : List α}
    (hfirst : first ∈ sorted) (hside : ∀ a ∈ sorted, side a = side first)
    (hsort : xs.foldlM (insert? below) sorted = some result) : ∀ a ∈ xs, side a = side first := by
  induction xs generalizing sorted with
  | nil => simp
  | cons x xs ih =>
    obtain ⟨inserted, hinsert, hrest⟩ := Option.bind_eq_some_iff.1 hsort
    have hx := side_eq_of_insert h hfirst hside hinsert
    have hmem : ∀ a, a ∈ inserted ↔ a = x ∨ a ∈ sorted := fun a => by
      rw [(insert?_perm hinsert).mem_iff, List.mem_cons]
    have hinserted : ∀ a ∈ inserted, side a = side first := by
      intro a ha
      rcases (hmem a).1 ha with rfl | ha
      · exact hx
      · exact hside a ha
    exact List.forall_mem_cons.2 ⟨hx, ih ((hmem first).2 (.inr hfirst)) hinserted hrest⟩

theorem side_eq_of_runLength (h : Divides below side) {falling : Bool} {last : α} {more : Nat}
    (hrun : runLength? below falling last xs = some more) :
    ∀ a ∈ xs.take more, side a = side last := by
  induction xs generalizing last more with
  | nil => simp
  | cons x xs ih =>
    obtain ⟨answer, hanswer, hrun⟩ := Option.bind_eq_some_iff.1 hrun
    split at hrun
    · obtain ⟨n, hn, hmore⟩ := Option.bind_eq_some_iff.1 hrun
      obtain rfl := Option.some.inj hmore
      have hx := h _ _ _ hanswer
      rw [List.take_succ_cons]
      exact List.forall_mem_cons.2 ⟨hx, fun a ha => (ih hn a ha).trans hx⟩
    · obtain rfl := Option.some.inj hrun
      simp

/-- A list that is sorted lies on one side. -/
theorem side_eq_of_sort (h : Divides below side) {result : List α}
    (hsort : sort? below xs = some result) : ∀ a ∈ xs, ∀ b ∈ xs, side a = side b := by
  unfold sort? at hsort
  split at hsort
  · next first second rest =>
    obtain ⟨falling, hfalling, hsort⟩ := Option.bind_eq_some_iff.1 hsort
    obtain ⟨more, hmore, hsort⟩ := Option.bind_eq_some_iff.1 hsort
    have hsecond := h _ _ _ hfalling
    have hrun : ∀ a ∈ first :: second :: rest.take more, side a = side first := by
      refine List.forall_mem_cons.2 ⟨rfl, List.forall_mem_cons.2 ⟨hsecond, fun a ha => ?_⟩⟩
      exact (side_eq_of_runLength h hmore a ha).trans hsecond
    have hturned : ∀ a, a ∈ (if falling = true then (first :: second :: rest.take more).reverse
        else first :: second :: rest.take more) ↔ a ∈ first :: second :: rest.take more := by
      intro a
      split
      · exact List.mem_reverse
      · rfl
    have hlater := side_eq_of_foldlM_insert h ((hturned first).2 List.mem_cons_self)
      (fun a ha => hrun a ((hturned a).1 ha)) hsort
    have hall : ∀ a ∈ first :: second :: rest, side a = side first := by
      intro a ha
      rcases List.mem_append.1 ((run_append_perm falling first second rest more).mem_iff.2 ha)
        with ha | ha
      · exact hrun a ((hturned a).1 ha)
      · exact hlater a ha
    exact fun a ha b hb => (hall a ha).trans (hall b hb).symm
  · next hshort =>
    intro a ha b hb
    match xs, hshort with
    | [], _ => cases ha
    | [x], _ => rw [List.mem_singleton.1 ha, List.mem_singleton.1 hb]
    | first :: second :: rest, hshort => exact absurd rfl (hshort first second rest)

theorem side_eq_of_sortDescending (h : Divides below side) {result : List α}
    (hsort : sortDescending? below xs = some result) : ∀ a ∈ xs, ∀ b ∈ xs, side a = side b := by
  obtain ⟨sorted, hsorted, -⟩ := Option.map_eq_some_iff.1 hsort
  intro a ha b hb
  exact side_eq_of_sort h hsorted a (List.mem_reverse.2 ha) b (List.mem_reverse.2 hb)

end Divided

end TaskSieve.Sorting
