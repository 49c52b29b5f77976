import TaskSieve.Proofs.Datum.Order
import TaskSieve.Proofs.Task.Dates

set_option autoImplicit false

/-! # Tasks in lexicographic order

One order says how tasks stand under several keys: the first key that tells them apart decides, a
task without a value stands behind those with one in either direction, and tasks that no key tells
apart are equal. Sorting by the keys one after another, the least significant first, gives the
tasks in that order with equal ones as they were. -/

namespace TaskSieve

open Calendar (Stamp)

/-! ## The order -/

namespace SortKey

/-- How two values stand under a key. -/
def compareValues (k : SortKey) (x y : Datum) : Ordering :=
  let ascending : Ordering :=
    if x.below? y = some true then .lt else if y.below? x = some true then .gt else .eq
  if k.descending then ascending.swap else ascending

/-- How two tasks stand under a key. -/
def order (k : SortKey) (a b : Task) : Ordering :=
  match k.value? a, k.value? b with
  | some x, some y => k.compareValues x y
  | some _, none => .lt
  | none, some _ => .gt
  | none, none => .eq

end SortKey

/-- How two tasks stand under several keys, the most significant first. -/
def Task.order (keys : List SortKey) (a b : Task) : Ordering :=
  keys.foldr (fun k later => (k.order a b).then later) .eq

namespace SortKey

variable {k : SortKey} {keys : List SortKey} {tasks result : List Task}

/-- The values that a key has among some tasks are ordered. -/
def OrdersValues (k : SortKey) (tasks : List Task) : Prop :=
  Sorting.Orders Datum.below? (tasks.filterMap k.value?)

/-! ## One key -/

theorem order_of_some {a b : Task} {x y : Datum} (ha : k.value? a = some x)
    (hb : k.value? b = some y) : k.order a b = k.compareValues x y := by
  rw [order, ha, hb]

theorem order_of_some_none {a b : Task} {x : Datum} (ha : k.value? a = some x)
    (hb : k.value? b = none) : k.order a b = .lt := by
  rw [order, ha, hb]

theorem order_of_none_some {a b : Task} {y : Datum} (ha : k.value? a = none)
    (hb : k.value? b = some y) : k.order a b = .gt := by
  rw [order, ha, hb]

theorem order_of_none {a b : Task} (ha : k.value? a = none) (hb : k.value? b = none) :
    k.order a b = .eq := by
  rw [order, ha, hb]

theorem mem_present {p : Datum × Task} (h : p ∈ k.present tasks) :
    p.2 ∈ tasks ∧ k.value? p.2 = some p.1 := by
  obtain ⟨t, ht, hp⟩ := List.mem_filterMap.1 h
  obtain ⟨d, hd, rfl⟩ := Option.map_eq_some_iff.1 hp
  exact ⟨ht, hd⟩

theorem value_mem {t : Task} {x : Datum} (ht : t ∈ tasks) (hx : k.value? t = some x) :
    x ∈ tasks.filterMap k.value? := List.mem_filterMap.2 ⟨t, ht, hx⟩

/-- The tasks whose value passes a test, found among those with a value. -/
theorem map_snd_filter_present (test : Datum → Bool) :
    ((k.present tasks).filter fun p => test p.1).map Prod.snd =
      tasks.filter fun t => (k.value? t).any test := by
  induction tasks with
  | nil => rfl
  | cons t tasks ih =>
    rw [present, List.filterMap_cons, List.filter_cons]
    cases k.value? t with
    | none => exact ih
    | some d =>
      cases hd : test d with
      | false => simpa [present, hd] using ih
      | true => simpa [present, hd] using ih

/-- Two values of a key among some tasks stand as their sizes do. -/
def StandBy {γ : Type} [LinearOrder γ] (k : SortKey) (tasks : List Task)
    (size : Datum → γ) : Prop :=
  ∀ x ∈ tasks.filterMap k.value?, ∀ y ∈ tasks.filterMap k.value?,
    k.compareValues x y = compare (size x) (size y)

/-- Ordered values have sizes by which they stand, falling ones if the key is descending, and tasks
with a value are put in the order of these. -/
theorem exists_standBy (h : k.OrdersValues tasks) :
    ∃ (γ : Type) (_ : LinearOrder γ) (size : Datum → γ), k.StandBy tasks size ∧
      ∀ pairs, k.sortPresent? (k.present tasks) = some pairs →
        Sorting.Follows (fun p => size p.1) (k.present tasks) pairs := by
  obtain ⟨size, hsize⟩ := Sorting.Orders.exists_size h
  have ascending : ∀ x ∈ tasks.filterMap k.value?, ∀ y ∈ tasks.filterMap k.value?,
      (if x.below? y = some true then .lt else if y.below? x = some true then .gt else .eq) =
        compare (size x) (size y) := by
    intro x hx y hy
    rw [hsize x hx y hy, hsize y hy x hx]
    rcases lt_trichotomy (size x) (size y) with hlt | heq | hgt
    · simp [hlt, Nat.compare_eq_lt.2 hlt]
    · simp [heq]
    · simp [hgt, hgt.le, Nat.compare_eq_gt.2 hgt]
  have measured : Sorting.Measures (fun p q : Datum × Task => p.1.below? q.1)
      (fun p => size p.1) (k.present tasks) := by
    intro p hp q hq
    obtain ⟨htask, hvalue⟩ := mem_present hp
    obtain ⟨htask', hvalue'⟩ := mem_present hq
    exact hsize _ (value_mem htask hvalue) _ (value_mem htask' hvalue')
  cases hdirection : k.descending with
  | false =>
    refine ⟨ℕ, inferInstance, size, fun x hx y hy => ?_, fun pairs hpairs => ?_⟩
    · rw [compareValues, hdirection]
      exact ascending x hx y hy
    · rw [sortPresent?, hdirection] at hpairs
      exact Sorting.follows_sort measured hpairs
  | true =>
    refine ⟨ℕᵒᵈ, inferInstance, fun x => .toDual (size x), fun x hx y hy => ?_,
      fun pairs hpairs => ?_⟩
    · rw [compareValues, hdirection]
      dsimp only
      rw [if_pos rfl, ascending x hx y hy]
      exact Nat.compare_swap _ _
    · rw [sortPresent?, hdirection] at hpairs
      exact Sorting.follows_sortDescending measured hpairs

section Pass

variable {γ : Type} [LinearOrder γ] {size : Datum → γ} {pairs : List (Datum × Task)} {t : Task}

theorem mem_of_follows (follows : Sorting.Follows (fun p => size p.1) (k.present tasks) pairs)
    {p : Datum × Task} (hp : p ∈ pairs) : p.2 ∈ tasks ∧ k.value? p.2 = some p.1 := by
  have hmem : p ∈ pairs.filter fun q => size q.1 = size p.1 := List.mem_filter.2 ⟨hp, by simp⟩
  rw [follows.stable] at hmem
  exact mem_present (List.mem_of_mem_filter hmem)

theorem value?_of_mem_missing {s : Task}
    (hs : s ∈ tasks.filter fun t => (k.value? t).isNone) : k.value? s = none := by
  simpa using List.of_mem_filter hs

/-- A task with a value and a task without one stand in the order of the key where a pass puts
them. -/
theorem pairwise_of_follows (stand : k.StandBy tasks size)
    (follows : Sorting.Follows (fun p => size p.1) (k.present tasks) pairs) :
    (pairs.map Prod.snd ++ tasks.filter fun t => (k.value? t).isNone).Pairwise
      fun a b => (k.order a b).isLE = true := by
  refine List.pairwise_append.2 ⟨List.pairwise_map.2 ?_, ?_, ?_⟩
  · refine follows.rises.imp_of_mem fun {p q} hp hq hle => ?_
    obtain ⟨hp, hvalue⟩ := mem_of_follows follows hp
    obtain ⟨hq, hvalue'⟩ := mem_of_follows follows hq
    rw [order_of_some hvalue hvalue', stand _ (value_mem hp hvalue) _ (value_mem hq hvalue')]
    exact Ordering.ne_gt_iff_isLE.1 (compare_le_iff_le.2 hle)
  · refine List.pairwise_of_forall_mem_list fun a ha b hb => ?_
    rw [order_of_none (value?_of_mem_missing ha) (value?_of_mem_missing hb)]
    rfl
  · intro a ha b hb
    obtain ⟨p, hp, rfl⟩ := List.mem_map.1 ha
    rw [order_of_some_none (mem_of_follows follows hp).2 (value?_of_mem_missing hb)]
    rfl

/-- The tasks that are equal to one with a value are those whose values have its size. -/
theorem filter_of_some (stand : k.StandBy tasks size)
    (follows : Sorting.Follows (fun p => size p.1) (k.present tasks) pairs) {x : Datum}
    (ht : t ∈ tasks) (hvalue : k.value? t = some x) :
    (pairs.map Prod.snd ++ tasks.filter fun t => (k.value? t).isNone).filter (k.order · t == .eq) =
      tasks.filter (k.order · t == .eq) := by
  have same : ∀ s ∈ tasks,
      (k.order s t == .eq) = (k.value? s).any fun y => decide (size y = size x) := by
    intro s hs
    cases hvalue' : k.value? s with
    | none =>
      rw [order_of_none_some hvalue' hvalue]
      rfl
    | some y =>
      rw [order_of_some hvalue' hvalue, stand _ (value_mem hs hvalue') _ (value_mem ht hvalue),
        Bool.eq_iff_iff, beq_iff_eq, compare_eq_iff_eq]
      simp
  have none_missing : ((tasks.filter fun t => (k.value? t).isNone).filter
      (k.order · t == .eq)) = [] :=
    List.filter_eq_nil_iff.2 fun s hs => by
      simp [order_of_none_some (value?_of_mem_missing hs) hvalue]
  have same_pairs : pairs.filter ((k.order · t == .eq) ∘ Prod.snd) =
      pairs.filter fun p => size p.1 = size x :=
    List.filter_congr fun p hp => by
      obtain ⟨hp, hvalue'⟩ := mem_of_follows follows hp
      rw [Function.comp_apply, same p.2 hp, hvalue', Option.any_some]
  rw [List.filter_append, List.filter_map, none_missing, List.append_nil, same_pairs,
    follows.stable, List.filter_congr same]
  exact map_snd_filter_present fun y => decide (size y = size x)

/-- The tasks that are equal to one without a value are those without one. -/
theorem filter_of_none (follows : Sorting.Follows (fun p => size p.1) (k.present tasks) pairs)
    (hvalue : k.value? t = none) :
    (pairs.map Prod.snd ++ tasks.filter fun t => (k.value? t).isNone).filter (k.order · t == .eq) =
      tasks.filter (k.order · t == .eq) := by
  have none_present : pairs.filter ((k.order · t == .eq) ∘ Prod.snd) = [] :=
    List.filter_eq_nil_iff.2 fun p hp => by
      simp [order_of_some_none (mem_of_follows follows hp).2 hvalue]
  have all_missing : ((tasks.filter fun t => (k.value? t).isNone).filter
      (k.order · t == .eq)) = tasks.filter fun t => (k.value? t).isNone :=
    List.filter_eq_self.2 fun s hs => by
      simp [order_of_none (value?_of_mem_missing hs) hvalue]
  rw [List.filter_append, List.filter_map, none_present, List.map_nil, List.nil_append,
    all_missing]
  refine List.filter_congr fun s _ => ?_
  cases hvalue' : k.value? s with
  | none =>
    rw [order_of_none hvalue' hvalue]
    rfl
  | some y =>
    rw [order_of_some_none hvalue' hvalue]
    rfl

end Pass

/-- Sorting by a key puts tasks in its order and leaves equal ones as they were. -/
theorem isStableSort_sort (h : k.OrdersValues tasks) (hsort : k.sort? tasks = some result) :
    Sorting.IsStableSort k.order tasks result := by
  obtain ⟨γ, _, size, stand, hpresent⟩ := exists_standBy h
  have hperm := sort?_perm hsort
  rw [sort?_eq] at hsort
  obtain ⟨pairs, hpairs, rfl⟩ := Option.map_eq_some_iff.1 hsort
  have follows := hpresent pairs hpairs
  refine ⟨hperm, pairwise_of_follows stand follows, fun t ht => ?_⟩
  cases hvalue : k.value? t with
  | some x => exact filter_of_some stand follows ht hvalue
  | none => exact filter_of_none follows hvalue

theorem order_self (h : k.OrdersValues tasks) {t : Task} (ht : t ∈ tasks) :
    k.order t t = .eq := by
  obtain ⟨γ, _, size, stand, -⟩ := exists_standBy h
  cases hvalue : k.value? t with
  | none => exact order_of_none hvalue hvalue
  | some x =>
    have hx := value_mem ht hvalue
    rw [order_of_some hvalue hvalue, stand x hx x hx, compare_eq_iff_eq]

/-- Values that are ordered can be compared. -/
theorem comparable_of_ordersValues (h : ∀ k ∈ keys, k.OrdersValues tasks) :
    Comparable keys tasks :=
  fun k hk _ ha _ hb _ hx _ hy =>
    (h k hk).comparable _ (value_mem ha hx) _ (value_mem hb hy)

end SortKey

/-! ## Declared fields -/

namespace SortKey

variable {k : SortKey} {tasks : List Task}

/-- The values of a key are ordered if what it is read from has sizes that fit. -/
theorem ordersValues_of_size {γ δ : Type} [LinearOrder δ] (source : Task → Option γ)
    (f : γ → Datum) (size : γ → δ) (hvalue : ∀ t, k.value? t = (source t).map f)
    (h : ∀ a ∈ tasks.filterMap source, ∀ b ∈ tasks.filterMap source,
      (f a).below? (f b) = some (decide (size a < size b))) : k.OrdersValues tasks := by
  have hvalues : tasks.filterMap k.value? = (tasks.filterMap source).map f := by
    rw [List.map_filterMap]
    exact congrFun (congrArg List.filterMap (funext hvalue)) tasks
  have measured : Sorting.Measures (fun a b => (f a).below? (f b)) size
      (tasks.filterMap source) := h
  rw [OrdersValues, hvalues]
  exact measured.orders.map

theorem ordersValues_of_ints (source : Task → Option Int)
    (hvalue : ∀ t, k.value? t = (source t).map .int) : k.OrdersValues tasks :=
  ordersValues_of_size source .int (fun n => n) hvalue fun m _ n _ => Datum.below?_int m n

theorem ordersValues_of_texts (source : Task → Option String)
    (hvalue : ∀ t, k.value? t = (source t).map .text) : k.OrdersValues tasks :=
  ordersValues_of_size source .text (fun s => s.toList.map Char.toNat) hvalue fun a _ b _ =>
    (Datum.below?_text a b).trans (congrArg some (decide_eq_decide.2 Iff.rfl))

/-- The values of a declared field are ordered, unless one is not a number or dates with an offset
meet dates without one. -/
theorem ordersValues_of_declared (declared : k.field ≠ .position)
    (numbers : k.field = .percentDone → ∀ t ∈ tasks, t.percentDone ≠ .nan)
    (dates : ¬ Task.Mixed [k] tasks) : k.OrdersValues tasks := by
  obtain ⟨field, descending⟩ := k
  cases field with
  | id => exact ordersValues_of_ints (fun t => some t.id) fun _ => rfl
  | priority => exact ordersValues_of_ints (fun t => some t.priority) fun _ => rfl
  | projectId => exact ordersValues_of_ints _ (value?_of_project rfl)
  | title =>
    exact ordersValues_of_texts (fun t => some (Text.lowerString t.title)) fun _ => rfl
  | description =>
    exact ordersValues_of_texts (fun t => some (Text.lowerString t.description)) fun _ => rfl
  | done =>
    exact ordersValues_of_size (fun t => some t.done) .bool (fun b => b) (fun _ => rfl)
      fun a _ b _ => Datum.below?_bool a b
  | percentDone =>
    refine ordersValues_of_size (fun t => some t.percentDone) .num Binary64.size (fun _ => rfl)
      fun x hx y hy => ?_
    obtain ⟨a, ha, hx⟩ := List.mem_filterMap.1 hx
    obtain ⟨b, hb, hy⟩ := List.mem_filterMap.1 hy
    cases hx
    cases hy
    exact Datum.below?_num (numbers rfl a ha) (numbers rfl b hb)
  | dueDate | created | updated =>
    refine ordersValues_of_size _ .stamp Stamp.instant (value?_of_isDate rfl)
      fun s hs s' hs' => ?_
    obtain ⟨a, ha, hs⟩ := List.mem_filterMap.1 hs
    obtain ⟨b, hb, hs'⟩ := List.mem_filterMap.1 hs'
    exact Datum.below?_stamp
      (offset_eq_of_not_mixed dates (List.mem_singleton_self _) ha hb hs hs')
  | position => exact absurd rfl declared

end SortKey

/-! ## Several keys -/

namespace Task

variable {keys : List SortKey} {tasks result : List Task}

/-- Sorting by several keys puts tasks in their lexicographic order and leaves equal ones as they
were. -/
theorem isStableSort_sortBy (h : ∀ k ∈ keys, k.OrdersValues tasks)
    (hsort : sortBy? keys tasks = some result) :
    Sorting.IsStableSort (order keys) tasks result := by
  induction keys generalizing result with
  | nil =>
    obtain rfl := Option.some.inj hsort
    exact Sorting.isStableSort_refl tasks
  | cons k keys ih =>
    rw [sortBy?_cons] at hsort
    obtain ⟨later, hlater, hsort⟩ := Option.bind_eq_some_iff.1 hsort
    have hk := h k List.mem_cons_self
    have hpass := ih (fun k' hk' => h k' (List.mem_cons_of_mem k hk')) hlater
    have hlater : k.OrdersValues later := Sorting.Orders.mono hk (hpass.perm.filterMap _).subset
    exact hpass.then (SortKey.isStableSort_sort hlater hsort) fun t ht => SortKey.order_self hk ht

/-- Tasks whose values are ordered key by key have a sorted list, and it is their stable order under
the keys. -/
theorem exists_sortBy_isStableSort (h : ∀ k ∈ keys, k.OrdersValues tasks) :
    ∃ sorted, sortBy? keys tasks = some sorted ∧
      Sorting.IsStableSort (order keys) tasks sorted := by
  obtain ⟨sorted, hsorted⟩ := exists_sortBy (SortKey.comparable_of_ordersValues h)
  exact ⟨sorted, hsorted, isStableSort_sortBy h hsorted⟩

/-- Tasks of which three have one priority and no two of these a due date. -/
def fieldWork : List Task :=
  [⟨1, "Sow", "", false, 3, 0, none, none, none, none, [], [], []⟩,
    ⟨2, "reap", "", false, 3, 0, some (.ofDay 738001 none), none, none, none, [], [], []⟩,
    ⟨3, "Mow", "", true, 5, 0, some (.ofDay 738002 none), none, none, none, [], [], []⟩,
    ⟨4, "sow", "", false, 3, 0, none, none, none, none, [], [], []⟩]

/-- Priority from high to low, then due date, then title. -/
def byUrgency : List SortKey := [⟨.priority, true⟩, ⟨.dueDate, false⟩, ⟨.title, false⟩]

/-- The most urgent task comes first and those without a due date last, in the order that they were
in, since their titles differ in case only. -/
theorem exists_sortBy_isStableSort_of_fieldWork :
    (∀ k ∈ byUrgency, k.OrdersValues fieldWork) ∧
      ∃ sorted, sortBy? byUrgency fieldWork = some sorted ∧
        Sorting.IsStableSort (order byUrgency) fieldWork sorted ∧
        sorted.map Task.id = [3, 2, 1, 4] := by
  have naive : ∀ f : SortField, ∀ t ∈ fieldWork, (f.date? t).all (·.offset.isNone) = true := by
    intro f
    cases f <;> decide
  have fields : ∀ k ∈ byUrgency, k.field ≠ .position ∧ k.field ≠ .percentDone := by decide
  have ordered : ∀ k ∈ byUrgency, k.OrdersValues fieldWork := by
    intro k hk
    refine SortKey.ordersValues_of_declared (fields k hk).1
      (fun hfield => absurd hfield (fields k hk).2) ?_
    rintro ⟨k', -, a, ha, -, -, s, -, hs, -, hoffset, -⟩
    have hnone := naive k'.field a ha
    rw [hs, Option.all_some, Option.isNone_iff_eq_none] at hnone
    simp [hnone] at hoffset
  obtain ⟨sorted, hsorted, stable⟩ := exists_sortBy_isStableSort ordered
  have ids : (sortBy? byUrgency fieldWork).map (·.map Task.id) = some [3, 2, 1, 4] := by
    decide +kernel
  rw [hsorted] at ids
  exact ⟨ordered, sorted, hsorted, stable, Option.some.inj ids⟩

end Task

end TaskSieve
