import TaskSieve.Proofs.Sorting
import TaskSieve.Task.Order

set_option autoImplicit false

/-! # Sorting tasks keeps the tasks

A list of tasks that is sorted by several keys has the tasks of the list, each as often. There is
such a list as soon as the values of each key can be compared. -/

namespace TaskSieve

/-- The values of some tasks can be compared with each other, key by key. -/
def SortKey.Comparable (keys : List SortKey) (tasks : List Task) : Prop :=
  ∀ k ∈ keys, ∀ a ∈ tasks, ∀ b ∈ tasks, ∀ x ∈ k.value? a, ∀ y ∈ k.value? b,
    ∃ answer, Datum.below? x y = some answer

namespace SortKey

variable {k : SortKey} {keys : List SortKey} {tasks result : List Task}

/-- The tasks with a value, each with its value before it. -/
def present (k : SortKey) (tasks : List Task) : List (Datum × Task) :=
  tasks.filterMap fun t => (k.value? t).map fun d => (d, t)

/-- Tasks in order of their values. -/
def sortPresent? (k : SortKey) (pairs : List (Datum × Task)) : Option (List (Datum × Task)) :=
  let below (a b : Datum × Task) : Option Bool := Datum.below? a.1 b.1
  if k.descending then Sorting.sortDescending? below pairs else Sorting.sort? below pairs

theorem sort?_eq (k : SortKey) (tasks : List Task) :
    k.sort? tasks = (k.sortPresent? (k.present tasks)).map fun pairs =>
      pairs.map Prod.snd ++ tasks.filter fun t => (k.value? t).isNone := by
  rw [sort?, sortPresent?]
  rfl

/-- The tasks with a value and those without one are all tasks. -/
theorem present_append_perm (k : SortKey) (tasks : List Task) :
    ((k.present tasks).map Prod.snd ++ tasks.filter fun t => (k.value? t).isNone).Perm tasks := by
  induction tasks with
  | nil => rfl
  | cons t tasks ih =>
    rw [present, List.filterMap_cons, List.filter_cons]
    cases k.value? t with
    | none => exact List.perm_middle.trans (ih.cons t)
    | some d => exact ih.cons t

theorem sort?_perm (h : k.sort? tasks = some result) : result.Perm tasks := by
  rw [sort?_eq] at h
  obtain ⟨pairs, hpairs, rfl⟩ := Option.map_eq_some_iff.1 h
  have hperm : pairs.Perm (k.present tasks) := by
    rw [sortPresent?] at hpairs
    split at hpairs
    · exact Sorting.sortDescending?_perm hpairs
    · exact Sorting.sort?_perm hpairs
  exact ((hperm.map Prod.snd).append_right _).trans (present_append_perm k tasks)

theorem exists_sort (h : Comparable [k] tasks) : ∃ result, k.sort? tasks = some result := by
  have comparable : Sorting.Comparable (fun a b : Datum × Task => Datum.below? a.1 b.1)
      (k.present tasks) := by
    intro a ha b hb
    obtain ⟨s, hs, hsome⟩ := List.mem_filterMap.1 ha
    obtain ⟨d, hd, rfl⟩ := Option.map_eq_some_iff.1 hsome
    obtain ⟨t, ht, hsome⟩ := List.mem_filterMap.1 hb
    obtain ⟨d', hd', rfl⟩ := Option.map_eq_some_iff.1 hsome
    exact h k List.mem_cons_self s hs t ht d hd d' hd'
  rw [sort?_eq, sortPresent?]
  split
  · obtain ⟨pairs, hpairs⟩ := Sorting.exists_sortDescending comparable
    exact ⟨_, by rw [hpairs]; rfl⟩
  · obtain ⟨pairs, hpairs⟩ := Sorting.exists_sort comparable
    exact ⟨_, by rw [hpairs]; rfl⟩

theorem Comparable.mono {tasks' : List Task} (h : Comparable keys tasks') (hsub : tasks ⊆ tasks') :
    Comparable keys tasks :=
  fun k hk a ha b hb => h k hk a (hsub ha) b (hsub hb)

end SortKey

namespace Task

variable {keys : List SortKey} {tasks result : List Task}

theorem sortBy?_cons (k : SortKey) (keys : List SortKey) (tasks : List Task) :
    sortBy? (k :: keys) tasks = (sortBy? keys tasks).bind k.sort? :=
  List.foldrM_cons

/-- Sorted tasks are the tasks that there were, each as often as before. -/
theorem sortBy?_perm (h : sortBy? keys tasks = some result) : result.Perm tasks := by
  induction keys generalizing result with
  | nil =>
    obtain rfl := Option.some.inj h
    rfl
  | cons k keys ih =>
    rw [sortBy?_cons] at h
    obtain ⟨later, hlater, hsort⟩ := Option.bind_eq_some_iff.1 h
    exact (SortKey.sort?_perm hsort).trans (ih hlater)

/-- Tasks whose values can be compared can be sorted. -/
theorem exists_sortBy (h : SortKey.Comparable keys tasks) :
    ∃ result, sortBy? keys tasks = some result := by
  induction keys with
  | nil => exact ⟨tasks, rfl⟩
  | cons k keys ih =>
    obtain ⟨later, hlater⟩ := ih fun k' hk' => h k' (List.mem_cons_of_mem k hk')
    have comparable : SortKey.Comparable [k] later := by
      have hsub : later ⊆ tasks := (sortBy?_perm hlater).subset
      refine SortKey.Comparable.mono (fun k' hk' => ?_) hsub
      obtain rfl := List.mem_singleton.1 hk'
      exact h k' List.mem_cons_self
    obtain ⟨result, hresult⟩ := SortKey.exists_sort comparable
    exact ⟨result, by rw [sortBy?_cons, hlater]; exact hresult⟩

end Task

end TaskSieve
