import TaskSieve.Datum.Basic
import Mathlib.Data.List.Nodup

set_option autoImplicit false

/-! # Looking up fields that were set

A set field shows the new value and leaves the others alone. Where each key occurs once, setting
many fields shows each with its value, and setting them from nothing gives them back in their
order. -/

namespace TaskSieve

theorem lookup_cons_eq_ite {α : Type} (k key : String) (a : α) (entries : List (String × α)) :
    ((k, a) :: entries).lookup key = if key = k then some a else entries.lookup key := by
  rw [List.lookup_cons]
  by_cases h : key = k
  · simp [h]
  · simp [h, beq_eq_false_iff_ne.2 h]

/-- A function on the values of entries is one on what is looked up. -/
theorem lookup_map_snd {α β : Type} (f : α → β) (entries : List (String × α)) (key : String) :
    (entries.map fun e => (e.1, f e.2)).lookup key = (entries.lookup key).map f := by
  induction entries with
  | nil => rfl
  | cons e rest ih =>
    rw [List.map_cons, lookup_cons_eq_ite, ih, lookup_cons_eq_ite]
    split <;> rfl

/-- What is looked up stands under its key. -/
theorem mem_of_lookup {α : Type} {entries : List (String × α)} {key : String} {a : α}
    (h : entries.lookup key = some a) : (key, a) ∈ entries := by
  obtain ⟨front, back, rfl, -⟩ := List.lookup_eq_some_iff.1 h
  simp

namespace Fields

/-! ## One field -/

@[simp] theorem get?_nil (key : String) : get? [] key = none := rfl

theorem get?_cons (k key : String) (v : Datum) (fields : Fields) :
    get? ((k, v) :: fields) key = if key = k then some v else get? fields key :=
  lookup_cons_eq_ite k key v fields

/-- A field that is set is found with its value, and no other look-up changes. -/
theorem get?_put (fields : Fields) (k key : String) (v : Datum) :
    get? (put fields k v) key = if key = k then some v else get? fields key := by
  induction fields with
  | nil => exact get?_cons k key v []
  | cons f rest ih =>
    obtain ⟨k', v'⟩ := f
    rw [put]
    by_cases hk : k' = k
    · subst hk
      simp only [BEq.rfl, ↓reduceIte, get?_cons]
      split <;> rfl
    · simp only [beq_iff_eq, hk, ↓reduceIte, get?_cons, ih]
      by_cases hkey : key = k
      · simp [hkey, Ne.symm hk]
      · simp [hkey]

theorem get?_eq_none_iff {fields : Fields} {key : String} :
    get? fields key = none ↔ key ∉ fields.map Prod.fst := by
  induction fields with
  | nil => simp
  | cons f rest ih =>
    obtain ⟨k, v⟩ := f
    rw [get?_cons, List.map_cons, List.mem_cons, not_or, ← ih]
    by_cases h : key = k <;> simp [h]

/-- A key that is not among those allowed is not given. -/
theorem get?_eq_none_of_all {fields : Fields} {allowed : List String} {key : String}
    (h : fields.all (fun f => allowed.contains f.1) = true) (hkey : key ∉ allowed) :
    get? fields key = none := by
  rw [get?_eq_none_iff]
  intro hmem
  obtain ⟨f, hf, rfl⟩ := List.mem_map.1 hmem
  exact hkey (List.contains_iff_mem.1 (List.all_eq_true.1 h f hf))

/-- A field with a new key goes to the end. -/
theorem put_of_new {fields : Fields} {key : String} (v : Datum)
    (h : key ∉ fields.map Prod.fst) : put fields key v = fields ++ [(key, v)] := by
  induction fields with
  | nil => rfl
  | cons f rest ih =>
    simp only [List.map_cons, List.mem_cons, not_or] at h
    have hne : f.1 ≠ key := Ne.symm h.1
    simp [put, hne, ih h.2]

/-- Setting a field keeps the keys, and brings in at most its own. -/
theorem map_fst_put (fields : Fields) (key : String) (v : Datum) :
    (put fields key v).map Prod.fst =
      if key ∈ fields.map Prod.fst then fields.map Prod.fst else fields.map Prod.fst ++ [key] := by
  induction fields with
  | nil => rfl
  | cons f rest ih =>
    obtain ⟨k, v'⟩ := f
    rw [put]
    by_cases hk : k = key
    · simp [hk]
    · simp only [beq_iff_eq, hk, ↓reduceIte, List.map_cons, ih, List.mem_cons, Ne.symm hk, false_or]
      split <;> rfl

/-- Setting a field leaves every key once. -/
theorem nodup_put {fields : Fields} (key : String) (v : Datum)
    (h : (fields.map Prod.fst).Nodup) : ((put fields key v).map Prod.fst).Nodup := by
  rw [map_fst_put]
  split
  case isTrue => exact h
  case isFalse hnew =>
    rw [List.nodup_append]
    exact ⟨h, List.nodup_singleton key, fun a ha b hb => by
      rw [List.mem_singleton.1 hb]
      exact fun heq => hnew (heq ▸ ha)⟩

/-! ## Many fields -/

/-- Where each key occurs once, a look-up after setting many fields finds the set one if there is
one, and else what was there. -/
theorem get?_foldl_put {changes : Fields} (h : (changes.map Prod.fst).Nodup) (fields : Fields)
    (key : String) :
    get? (changes.foldl (fun fs c => put fs c.1 c.2) fields) key =
      (get? changes key).or (get? fields key) := by
  induction changes generalizing fields with
  | nil => rfl
  | cons c rest ih =>
    obtain ⟨k, v⟩ := c
    rw [List.map_cons, List.nodup_cons] at h
    rw [List.foldl_cons, ih h.2, get?_put, get?_cons]
    by_cases hk : key = k
    · subst hk
      simp [get?_eq_none_iff.2 h.1]
    · simp [hk]

/-- Fields whose keys are all new and different are appended as they are. -/
theorem foldl_put_of_new {entries : List (String × Datum)} {fields : Fields}
    (h : ((fields ++ entries).map Prod.fst).Nodup) :
    entries.foldl (fun fs e => put fs e.1 e.2) fields = fields ++ entries := by
  induction entries generalizing fields with
  | nil => simp
  | cons e rest ih =>
    have hnew : e.1 ∉ fields.map Prod.fst := by
      rw [List.map_append, List.nodup_append] at h
      exact fun hmem => h.2.2 _ hmem _ (by simp) rfl
    rw [List.foldl_cons, put_of_new _ hnew, ih (by simpa using h)]
    simp

theorem ofList_of_nodup {entries : List (String × Datum)} (h : (entries.map Prod.fst).Nodup) :
    ofList entries = entries :=
  foldl_put_of_new h

end Fields

end TaskSieve
