import Mathlib.Data.List.Basic
import Mathlib.Data.Nat.Basic
import Mathlib.Order.Lattice
import Mathlib.Order.OrderDual
import TaskSieve.Proofs.Sorting

set_option autoImplicit false

/-! # Sorting is stable

Questions whose answers come from an order have one right result: the list with no element before a
lesser one, in which equal elements stand as they did. Sorting gives that list, ascending or
descending. Sorting by a second order and then by a first one gives the stable order by the first
one and, where that one leaves two elements equal, by the second. -/

namespace TaskSieve.Sorting

variable {α β : Type}

/-! ## Stable order -/

/-- A list is another one in its stable order: it has the same elements, no element stands before
a lesser one, and the elements that are equal to any one stand as they did. -/
structure IsStableSort (order : α → α → Ordering) (xs result : List α) : Prop where
  perm : result.Perm xs
  ordered : result.Pairwise fun a b => (order a b).isLE = true
  stable : ∀ t ∈ xs, result.filter (order · t == .eq) = xs.filter (order · t == .eq)

theorem isStableSort_refl (xs : List α) : IsStableSort (fun _ _ => .eq) xs xs where
  perm := .refl xs
  ordered := List.pairwise_of_forall fun _ _ => rfl
  stable := fun _ _ => rfl

/-- Two elements that are equal by the first order stand in the order of the pass before. -/
theorem IsStableSort.then {first second : α → α → Ordering} {xs ys zs : List α}
    (h : IsStableSort second xs ys) (h' : IsStableSort first ys zs)
    (refl : ∀ a ∈ xs, first a a = .eq) :
    IsStableSort (fun a b => (first a b).then (second a b)) xs zs where
  perm := h'.perm.trans h.perm
  ordered := by
    rw [List.pairwise_iff_forall_sublist]
    intro a b hsub
    have hle := List.pairwise_iff_forall_sublist.1 h'.ordered hsub
    cases horder : first a b with
    | gt => simp [horder] at hle
    | lt => rfl
    | eq =>
      have hb : b ∈ ys := h'.perm.subset (hsub.subset (by simp))
      have hfilter := hsub.filter (first · b == .eq)
      rw [h'.stable b hb, List.filter_cons_of_pos (by simp [horder]),
        List.filter_cons_of_pos (by simp [refl b (h.perm.subset hb)])] at hfilter
      exact List.pairwise_iff_forall_sublist.1 h.ordered (hfilter.trans List.filter_sublist)
  stable := by
    intro t ht
    have hsplit : ∀ l : List α, l.filter (fun a => (first a t).then (second a t) == .eq) =
        (l.filter (first · t == .eq)).filter (second · t == .eq) := by
      intro l
      rw [List.filter_filter]
      refine List.filter_congr fun a _ => ?_
      cases first a t <;> cases second a t <;> rfl
    rw [hsplit, hsplit, h'.stable t (h.perm.mem_iff.2 ht), List.filter_comm,
      h.stable t ht, List.filter_comm]

/-! ## Answers that come from an order -/

/-- The answers order some elements: any two compare, not both are below the other, and an element
cannot lie outside of two that are below one another on neither side. -/
structure Orders (below : α → α → Option Bool) (xs : List α) : Prop where
  comparable : Comparable below xs
  asymm : ∀ a ∈ xs, ∀ b ∈ xs, below a b = some true → below b a = some false
  between : ∀ a ∈ xs, ∀ b ∈ xs, ∀ c ∈ xs, below a c = some true →
    below a b = some true ∨ below b c = some true

/-- An element is below another if its size is smaller. -/
def Measures [LinearOrder β] (below : α → α → Option Bool) (size : α → β) (xs : List α) : Prop :=
  ∀ a ∈ xs, ∀ b ∈ xs, below a b = some (decide (size a < size b))

section

variable [LinearOrder β] {below : α → α → Option Bool} {size : α → β} {xs ys : List α}

theorem Measures.mono (h : Measures below size ys) (hsub : xs ⊆ ys) : Measures below size xs :=
  fun a ha b hb => h a (hsub ha) b (hsub hb)

/-- What is measured is ordered. -/
theorem Measures.orders (h : Measures below size xs) : Orders below xs where
  comparable a ha b hb := ⟨_, h a ha b hb⟩
  asymm a ha b hb hab := by
    rw [h a ha b hb, Option.some.injEq, decide_eq_true_eq] at hab
    rw [h b hb a ha, decide_eq_false (lt_asymm hab)]
  between a ha b hb c hc hac := by
    rw [h a ha c hc, Option.some.injEq, decide_eq_true_eq] at hac
    rw [h a ha b hb, h b hb c hc, Option.some.injEq, Option.some.injEq, decide_eq_true_eq,
      decide_eq_true_eq]
    exact (lt_or_ge (size a) (size b)).imp_right fun hba => lt_of_le_of_lt hba hac

end

theorem Orders.mono {below : α → α → Option Bool} {xs ys : List α} (h : Orders below ys)
    (hsub : xs ⊆ ys) : Orders below xs where
  comparable := h.comparable.mono hsub
  asymm a ha b hb := h.asymm a (hsub ha) b (hsub hb)
  between a ha b hb c hc := h.between a (hsub ha) b (hsub hb) c (hsub hc)

/-- Elements are ordered as what they stand for is. -/
theorem Orders.map {below : β → β → Option Bool} {f : α → β} {xs : List α}
    (h : Orders (fun a b => below (f a) (f b)) xs) : Orders below (xs.map f) where
  comparable := by
    intro x hx y hy
    obtain ⟨a, ha, rfl⟩ := List.mem_map.1 hx
    obtain ⟨b, hb, rfl⟩ := List.mem_map.1 hy
    exact h.comparable a ha b hb
  asymm := by
    intro x hx y hy
    obtain ⟨a, ha, rfl⟩ := List.mem_map.1 hx
    obtain ⟨b, hb, rfl⟩ := List.mem_map.1 hy
    exact h.asymm a ha b hb
  between := by
    intro x hx y hy z hz
    obtain ⟨a, ha, rfl⟩ := List.mem_map.1 hx
    obtain ⟨b, hb, rfl⟩ := List.mem_map.1 hy
    obtain ⟨c, hc, rfl⟩ := List.mem_map.1 hz
    exact h.between a ha b hb c hc

theorem Orders.trans {below : α → α → Option Bool} {xs : List α} (h : Orders below xs) {a b c : α}
    (ha : a ∈ xs) (hb : b ∈ xs) (hc : c ∈ xs) (hab : below a b = some true)
    (hbc : below b c = some true) : below a c = some true := by
  rcases h.between a ha c hc b hb hab with hac | hcb
  · exact hac
  · exact absurd ((h.asymm b hb c hc hbc).symm.trans hcb) (by simp)

/-- What is ordered is measured, by how many elements are below. -/
theorem Orders.exists_size {below : α → α → Option Bool} {xs : List α} (h : Orders below xs) :
    ∃ size : α → Nat, Measures below size xs := by
  refine ⟨fun a => xs.countP fun z => below z a == some true, fun a ha b hb => ?_⟩
  obtain ⟨answer, hanswer⟩ := h.comparable a ha b hb
  rw [hanswer]
  congr 1
  cases answer with
  | false =>
    -- what is below b is below a, since b is not above a
    refine (decide_eq_false (not_lt.2 (List.countP_mono_left fun z hz hzb => ?_))).symm
    rcases h.between z hz a ha b hb (beq_iff_eq.1 hzb) with hza | hab
    · exact beq_iff_eq.2 hza
    · exact absurd (hanswer.symm.trans hab) (by simp)
  | true =>
    -- what is below a is below b, and a itself is one element more
    refine (decide_eq_true ?_).symm
    dsimp only
    have hself : below a a ≠ some true := fun haa =>
      absurd ((h.asymm a ha a ha haa).symm.trans haa) (by simp)
    have hmono : xs.filter (fun z => below z a == some true) =
        (xs.filter fun z => below z b == some true).filter fun z => below z a == some true := by
      rw [List.filter_filter]
      refine List.filter_congr fun z hz => ?_
      cases hza : below z a == some true with
      | false => rfl
      | true => simp [h.trans hz ha hb (beq_iff_eq.1 hza) hanswer]
    rw [List.countP_eq_length_filter, List.countP_eq_length_filter, hmono,
      List.length_filter_lt_length_iff_exists]
    exact ⟨a, List.mem_filter.2 ⟨ha, beq_iff_eq.2 hanswer⟩, by simpa using hself⟩

/-! ## Inserting -/

section

variable [LinearOrder β] {below : α → α → Option Bool} {size : α → β} {xs sorted result : List α}
  {x : α}

/-- No element stands before a smaller one. -/
def Rises (size : α → β) (xs : List α) : Prop := xs.Pairwise fun a b => size a ≤ size b

/-- An element is put behind those that are not greater and before those that are. -/
theorem place?_spec (h : Measures below size (x :: sorted)) (rises : Rises size sorted)
    {low high i : Nat} (hplace : place? below x sorted low high = some i)
    (front : ∀ y ∈ sorted.take low, size y ≤ size x)
    (back : ∀ y ∈ sorted.drop high, size x < size y) :
    (∀ y ∈ sorted.take i, size y ≤ size x) ∧ ∀ y ∈ sorted.drop i, size x < size y := by
  fun_induction place? below x sorted low high with
  | case1 low high hlt hnone => cases hplace
  | case2 low high hlt y hy hnone => cases hplace
  | case3 low high hlt y hy hbelow ih =>
    obtain ⟨hmid, rfl⟩ := List.getElem?_eq_some_iff.1 hy
    rw [h x List.mem_cons_self _ (List.mem_cons_of_mem x (List.getElem_mem hmid)),
      Option.some.injEq, decide_eq_true_eq] at hbelow
    refine ih hplace front fun z hz => ?_
    have hrises := rises.sublist (List.drop_sublist ((low + high) / 2) sorted)
    rw [List.drop_eq_getElem_cons hmid] at hz hrises
    rcases List.mem_cons.1 hz with rfl | hz
    · exact hbelow
    · exact lt_of_lt_of_le hbelow (List.rel_of_pairwise_cons hrises hz)
  | case4 low high hlt y hy hbelow ih =>
    obtain ⟨hmid, rfl⟩ := List.getElem?_eq_some_iff.1 hy
    rw [h x List.mem_cons_self _ (List.mem_cons_of_mem x (List.getElem_mem hmid)),
      Option.some.injEq, decide_eq_false_iff_not, not_lt] at hbelow
    refine ih hplace (fun z hz => ?_) back
    have hrises := rises.sublist (List.take_sublist ((low + high) / 2 + 1) sorted)
    rw [List.take_succ_eq_append_getElem hmid] at hz hrises
    rcases List.mem_append.1 hz with hz | hz
    · exact le_trans ((List.pairwise_append.1 hrises).2.2 z hz _ (List.mem_singleton_self _)) hbelow
    · exact List.mem_singleton.1 hz ▸ hbelow
  | case5 low high hlt =>
    obtain rfl := Option.some.inj hplace
    refine ⟨front, fun y hy => back y ?_⟩
    exact (List.drop_sublist_drop_left sorted (not_lt.1 hlt)).subset hy

/-- The result has the elements of a list in the order of their sizes, equal ones as they were. -/
structure Follows (size : α → β) (xs result : List α) : Prop where
  rises : Rises size result
  stable : ∀ n, result.filter (size · = n) = xs.filter (size · = n)

/-- An inserted element is behind those of its size. -/
theorem follows_insert (h : Measures below size (x :: sorted)) (rises : Rises size sorted)
    (hinsert : insert? below sorted x = some result) : Follows size (sorted ++ [x]) result := by
  obtain ⟨i, hplace, rfl⟩ := Option.map_eq_some_iff.1 hinsert
  obtain ⟨front, back⟩ := place?_spec h rises hplace (by simp) (by simp)
  have halves : Rises size (sorted.take i ++ sorted.drop i) := by
    rwa [List.take_append_drop]
  obtain ⟨hfront, hback, hacross⟩ := List.pairwise_append.1 halves
  constructor
  · have hrest : Rises size (x :: sorted.drop i) :=
      List.pairwise_cons.2 ⟨fun y hy => le_of_lt (back y hy), hback⟩
    refine List.pairwise_append.2 ⟨hfront, hrest, fun a ha b hb => ?_⟩
    rcases List.mem_cons.1 hb with rfl | hb
    · exact front a ha
    · exact hacross a ha b hb
  · intro n
    have hwhole : sorted.filter (size · = n) = (sorted.take i).filter (size · = n) ++
        (sorted.drop i).filter (size · = n) := by
      rw [← List.filter_append, List.take_append_drop]
    rw [List.filter_append, List.filter_append, List.filter_cons, hwhole]
    by_cases hx : size x = n
    · -- behind the place every element is greater than those of the size
      have hnone : (sorted.drop i).filter (size · = n) = [] :=
        List.filter_eq_nil_iff.2 fun y hy => by simpa using ne_of_gt (hx ▸ back y hy)
      simp [hx, hnone]
    · simp [hx]

/-- Inserting several elements keeps equal ones as they were. -/
theorem follows_foldlM_insert (h : Measures below size (sorted ++ xs)) (rises : Rises size sorted)
    (hfold : xs.foldlM (insert? below) sorted = some result) :
    Follows size (sorted ++ xs) result := by
  induction xs generalizing sorted with
  | nil =>
    obtain rfl := Option.some.inj hfold
    rw [List.append_nil]
    exact ⟨rises, fun _ => rfl⟩
  | cons x xs ih =>
    obtain ⟨inserted, hinsert, hrest⟩ := Option.bind_eq_some_iff.1 hfold
    have hinserted := follows_insert (h.mono (by simp)) rises hinsert
    have hsub : inserted ++ xs ⊆ sorted ++ x :: xs := by
      have hperm : (inserted ++ xs).Perm (sorted ++ x :: xs) :=
        ((insert?_perm hinsert).append_right xs).trans List.perm_middle.symm
      exact hperm.subset
    have hresult := ih (h.mono hsub) hinserted.rises hrest
    refine ⟨hresult.rises, fun n => ?_⟩
    rw [hresult.stable, List.filter_append, hinserted.stable, ← List.filter_append,
      List.append_assoc, List.singleton_append]

/-! ## Runs -/

/-- Each element is smaller than those before it, or none is. -/
def Runs (size : α → β) (falling : Bool) (xs : List α) : Prop :=
  xs.Pairwise fun a b => decide (size b < size a) = falling

theorem Runs.cons {falling : Bool} {a b : α} (hab : decide (size b < size a) = falling)
    (h : Runs size falling (b :: xs)) : Runs size falling (a :: b :: xs) := by
  refine List.pairwise_cons.2 ⟨fun c hc => ?_, h⟩
  rcases List.mem_cons.1 hc with rfl | hc
  · exact hab
  · have hbc := List.rel_of_pairwise_cons h hc
    cases falling with
    | true =>
      rw [decide_eq_true_eq] at hab hbc ⊢
      exact lt_trans hbc hab
    | false =>
      rw [decide_eq_false_iff_not, not_lt] at hab hbc ⊢
      exact le_trans hab hbc

/-- The elements that go on as a run began are part of it. -/
theorem runs_of_runLength {falling : Bool} {last : α} {n : Nat}
    (h : Measures below size (last :: xs)) (hrun : runLength? below falling last xs = some n) :
    Runs size falling (last :: xs.take n) := by
  induction xs generalizing last n with
  | nil =>
    rw [List.take_nil]
    exact List.pairwise_singleton _ last
  | cons x xs ih =>
    obtain ⟨answer, hanswer, hrun⟩ := Option.bind_eq_some_iff.1 hrun
    rw [h x (by simp) last (by simp), Option.some.injEq] at hanswer
    split at hrun
    · next hgoes =>
      obtain ⟨m, hm, hmore⟩ := Option.bind_eq_some_iff.1 hrun
      obtain rfl := Option.some.inj hmore
      rw [List.take_succ_cons]
      exact (ih (h.mono (List.subset_cons_self last (x :: xs))) hm).cons
        (hanswer.trans (beq_iff_eq.1 hgoes))
    · obtain rfl := Option.some.inj hrun
      exact List.pairwise_singleton _ last

/-- Turning a falling run around leaves no two equal elements the other way round. -/
theorem filter_reverse_of_falls (h : Runs size true xs) (n : β) :
    xs.reverse.filter (size · = n) = xs.filter (size · = n) := by
  rw [List.filter_reverse]
  have hsome := h.sublist (List.filter_sublist (p := (size · = n)))
  have hsize : ∀ a ∈ xs.filter (size · = n), size a = n := fun a ha => by
    simpa using List.of_mem_filter ha
  match hfilter : xs.filter (size · = n) with
  | [] => rfl
  | [a] => rfl
  | a :: b :: rest =>
    rw [hfilter] at hsome hsize
    have hlt := List.rel_of_pairwise_cons hsome List.mem_cons_self
    rw [hsize a (by simp), hsize b (by simp), decide_eq_true_eq] at hlt
    exact absurd hlt (lt_irrefl n)

/-- A run that is turned around if it falls rises. -/
theorem follows_run {falling : Bool} (h : Runs size falling xs) :
    Follows size xs (if falling then xs.reverse else xs) := by
  cases falling with
  | true =>
    refine ⟨List.pairwise_reverse.2 (h.imp fun hab => ?_), filter_reverse_of_falls h⟩
    exact le_of_lt (of_decide_eq_true hab)
  | false =>
    refine ⟨h.imp fun hab => ?_, fun _ => rfl⟩
    exact not_lt.1 (of_decide_eq_false hab)

/-! ## Sorting -/

/-- A sorted list rises, and equal elements are as they were. -/
theorem follows_sort (h : Measures below size xs) (hsort : sort? below xs = some result) :
    Follows size xs result := by
  unfold sort? at hsort
  split at hsort
  · next first second rest =>
    obtain ⟨falling, hfalling, hsort⟩ := Option.bind_eq_some_iff.1 hsort
    obtain ⟨more, hmore, hsort⟩ := Option.bind_eq_some_iff.1 hsort
    rw [h second (by simp) first (by simp), Option.some.injEq] at hfalling
    have hrun := follows_run ((runs_of_runLength
      (h.mono (List.subset_cons_self first (second :: rest))) hmore).cons hfalling)
    have hperm := run_append_perm falling first second rest more
    have hresult := follows_foldlM_insert (h.mono hperm.subset) hrun.rises hsort
    refine ⟨hresult.rises, fun n => ?_⟩
    rw [hresult.stable, List.filter_append, hrun.stable, ← List.filter_append, List.cons_append,
      List.cons_append, List.take_append_drop]
  · next hshort =>
    obtain rfl := Option.some.inj hsort
    match xs, hshort with
    | [], _ => exact ⟨.nil, fun _ => rfl⟩
    | [x], _ => exact ⟨List.pairwise_singleton _ x, fun _ => rfl⟩
    | first :: second :: rest, hshort => exact absurd rfl (hshort first second rest)

/-- In descending order the sizes fall, and equal elements are as they were too. -/
theorem follows_sortDescending (h : Measures below size xs)
    (hsort : sortDescending? below xs = some result) :
    Follows (fun a => OrderDual.toDual (size a)) xs result := by
  obtain ⟨sorted, hsorted, rfl⟩ := Option.map_eq_some_iff.1 hsort
  obtain ⟨rises, stable⟩ := follows_sort (h.mono (List.reverse_perm xs).subset) hsorted
  refine ⟨List.pairwise_reverse.2 rises, fun n => ?_⟩
  have hreverse := congrArg List.reverse (stable (OrderDual.ofDual n))
  rwa [List.filter_reverse, List.reverse_reverse, ← List.filter_reverse] at hreverse

end

end TaskSieve.Sorting
