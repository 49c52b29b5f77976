import TaskSieve.Proofs.Task.Order

set_option autoImplicit false

/-! # When tasks have no order

All values of a field of tasks compare with each other, with one exception: a date with an offset and
one without. Tasks can be sorted by such fields exactly if no key meets both kinds of dates, whatever
the list looks like otherwise. -/

namespace TaskSieve

open Calendar (Stamp)

/-- The date of a task under a field that holds dates. -/
def SortField.date? : SortField → Task → Option Stamp
  | .dueDate, t => t.dueDate
  | .created, t => t.created
  | .updated, t => t.updated
  | _, _ => none

/-- Under one of the keys some task has a date with an offset and some task one without. -/
def Task.Mixed (keys : List SortKey) (tasks : List Task) : Prop :=
  ∃ k ∈ keys, ∃ a ∈ tasks, ∃ b ∈ tasks, ∃ s s', k.field.date? a = some s ∧
    k.field.date? b = some s' ∧ s.offset.isSome = true ∧ s'.offset.isSome = false

/-! ## Values -/

/-- Whether a value is a date with an offset. -/
def Datum.hasOffset : Datum → Bool
  | .stamp s => s.offset.isSome
  | _ => false

theorem Calendar.Stamp.exists_compare?_iff (a b : Stamp) :
    (∃ o, a.compare? b = some o) ↔ a.offset.isSome = b.offset.isSome := by
  rw [Stamp.compare?]
  split
  · next h => exact iff_of_true ⟨_, rfl⟩ h
  · next h => exact iff_of_false (by simp) h

/-- Values that compare both have an offset or both have none. -/
theorem Datum.hasOffset_eq_of_below (x y : Datum) (answer : Bool) (h : x.below? y = some answer) :
    x.hasOffset = y.hasOffset := by
  cases x with
  | stamp s =>
    cases y with
    | stamp s' =>
      obtain ⟨o, ho, -⟩ := Option.map_eq_some_iff.1 h
      exact (Stamp.exists_compare?_iff s s').1 ⟨o, ho⟩
    | _ => cases h
  | _ =>
    cases y with
    | stamp s' => cases h
    | _ => rfl

namespace SortField

/-- Whether a field holds dates. -/
def isDate : SortField → Bool
  | dueDate | created | updated => true
  | _ => false

theorem isDate_of_date? {field : SortField} {t : Task} {s : Stamp} (h : field.date? t = some s) :
    field.isDate = true := by
  cases field with
  | dueDate | created | updated => rfl
  | _ => cases h

end SortField

namespace SortKey

variable {k : SortKey} {a b : Task}

/-- By a date key tasks are sorted by their dates. -/
theorem value?_of_isDate (h : k.field.isDate = true) (t : Task) :
    k.value? t = (k.field.date? t).map .stamp := by
  obtain ⟨field, descending⟩ := k
  obtain ⟨_, _, _, _, _, _, due, created, updated, _, _, _, _⟩ := t
  cases field with
  | dueDate => cases due <;> rfl
  | created => cases created <;> rfl
  | updated => cases updated <;> rfl
  | _ => cases h

/-- By their project tasks are sorted if they have one. -/
theorem value?_of_project (h : k.field = .projectId) (t : Task) :
    k.value? t = t.projectId.map .int := by
  obtain ⟨field, descending⟩ := k
  obtain ⟨_, _, _, _, _, _, _, _, _, project, _, _, _⟩ := t
  cases h
  cases project <;> rfl

/-- Any two values of another declared field compare. -/
theorem exists_below? (declared : k.field ≠ .position) (h : k.field.isDate = false) {x y : Datum}
    (hx : k.value? a = some x) (hy : k.value? b = some y) : ∃ answer, x.below? y = some answer := by
  obtain ⟨field, descending⟩ := k
  cases field with
  | id | title | description | done | priority | percentDone =>
    obtain rfl := Option.some.inj hx
    obtain rfl := Option.some.inj hy
    exact ⟨_, rfl⟩
  | projectId =>
    rw [value?_of_project rfl] at hx hy
    obtain ⟨m, -, rfl⟩ := Option.map_eq_some_iff.1 hx
    obtain ⟨n, -, rfl⟩ := Option.map_eq_some_iff.1 hy
    exact ⟨_, rfl⟩
  | position => exact absurd rfl declared
  | dueDate | created | updated => cases h

variable {keys : List SortKey} {tasks : List Task}

/-- Unless dates are mixed, those under one key all have an offset or all have none. -/
theorem offset_eq_of_not_mixed (h : ¬ Task.Mixed keys tasks) (hk : k ∈ keys) (ha : a ∈ tasks)
    (hb : b ∈ tasks) {s s' : Stamp} (hs : k.field.date? a = some s)
    (hs' : k.field.date? b = some s') : s.offset.isSome = s'.offset.isSome := by
  cases hoffset : s.offset.isSome <;> cases hoffset' : s'.offset.isSome
  · rfl
  · exact absurd ⟨k, hk, b, hb, a, ha, s', s, hs', hs, hoffset', hoffset⟩ h
  · exact absurd ⟨k, hk, a, ha, b, hb, s, s', hs, hs', hoffset, hoffset'⟩ h
  · rfl

theorem comparable_of_not_mixed (declared : ∀ k ∈ keys, k.field ≠ .position)
    (h : ¬ Task.Mixed keys tasks) : Comparable keys tasks := by
  intro k hk a ha b hb x hx y hy
  cases hdate : k.field.isDate with
  | false => exact exists_below? (declared k hk) hdate hx hy
  | true =>
    rw [value?_of_isDate hdate] at hx hy
    obtain ⟨s, hs, rfl⟩ := Option.map_eq_some_iff.1 hx
    obtain ⟨s', hs', rfl⟩ := Option.map_eq_some_iff.1 hy
    obtain ⟨o, ho⟩ := (Stamp.exists_compare?_iff s s').2
      (offset_eq_of_not_mixed h hk ha hb hs hs')
    exact ⟨_, by rw [Datum.below?, ho]; rfl⟩

/-- Tasks that are sorted by a key have dates of one kind under it. -/
theorem hasOffset_eq_of_sort {result : List Task} (hsort : k.sort? tasks = some result)
    (ha : a ∈ tasks) (hb : b ∈ tasks) {x y : Datum} (hx : k.value? a = some x)
    (hy : k.value? b = some y) : x.hasOffset = y.hasOffset := by
  have present : ∀ {t : Task} {d : Datum}, t ∈ tasks → k.value? t = some d →
      (d, t) ∈ k.present tasks := fun ht hd => List.mem_filterMap.2 ⟨_, ht, by rw [hd]; rfl⟩
  have divides : Sorting.Divides (fun a b : Datum × Task => Datum.below? a.1 b.1)
      fun p => p.1.hasOffset := fun p p' => Datum.hasOffset_eq_of_below p.1 p'.1
  rw [sort?_eq] at hsort
  obtain ⟨pairs, hpairs, -⟩ := Option.map_eq_some_iff.1 hsort
  rw [sortPresent?] at hpairs
  split at hpairs
  · exact Sorting.side_eq_of_sortDescending divides hpairs _ (present ha hx) _ (present hb hy)
  · exact Sorting.side_eq_of_sort divides hpairs _ (present ha hx) _ (present hb hy)

end SortKey

namespace Task

variable {keys : List SortKey} {tasks : List Task}

/-- Tasks that are sorted by several keys are sorted by each of them on the way. -/
theorem exists_sort_of_sortBy {result : List Task} (h : sortBy? keys tasks = some result)
    {k : SortKey} (hk : k ∈ keys) :
    ∃ earlier later, earlier.Perm tasks ∧ k.sort? earlier = some later := by
  induction keys generalizing result with
  | nil => cases hk
  | cons key keys ih =>
    rw [sortBy?_cons] at h
    obtain ⟨earlier, hearlier, hsort⟩ := Option.bind_eq_some_iff.1 h
    rcases List.mem_cons.1 hk with rfl | hk
    · exact ⟨earlier, result, sortBy?_perm hearlier, hsort⟩
    · exact ih hearlier hk

/-- Tasks have no order by declared fields exactly if a key meets both kinds of dates. -/
theorem sortBy?_eq_none_iff (declared : ∀ k ∈ keys, k.field ≠ .position) :
    sortBy? keys tasks = none ↔ Mixed keys tasks := by
  constructor
  · intro hnone
    refine Classical.byContradiction fun h => ?_
    obtain ⟨sorted, hsorted⟩ := exists_sortBy (SortKey.comparable_of_not_mixed declared h)
    exact absurd (hnone.symm.trans hsorted) (by simp)
  · rintro ⟨k, hk, a, ha, b, hb, s, s', hs, hs', hoffset, hoffset'⟩
    cases hsorted : sortBy? keys tasks with
    | none => rfl
    | some sorted =>
      obtain ⟨earlier, later, hperm, hsort⟩ := exists_sort_of_sortBy hsorted hk
      have value : ∀ {t : Task} {s : Stamp}, k.field.date? t = some s →
          k.value? t = some (.stamp s) := fun ht => by
        rw [SortKey.value?_of_isDate (SortField.isDate_of_date? ht), ht]
        rfl
      have same : s.offset.isSome = s'.offset.isSome :=
        SortKey.hasOffset_eq_of_sort hsort (hperm.mem_iff.2 ha) (hperm.mem_iff.2 hb) (value hs)
          (value hs')
      rw [hoffset, hoffset'] at same
      cases same

end Task

end TaskSieve
