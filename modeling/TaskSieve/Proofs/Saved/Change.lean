import TaskSieve.Proofs.Datum.Fields
import TaskSieve.Proofs.Schema.Value
import TaskSieve.Saved.Store

set_option autoImplicit false

/-! # What a change does to a saved filter

A changed filter is read anew from its own fields with the changes put over them. So each field has
the value that its reader takes from the change that names it, and a field that no change names
comes back as it was: `changedBy_of_ofFields`. A change cannot name the id and the time of
creation. -/

namespace TaskSieve

open Schema

namespace SavedFilter

/-- The fields of a filter that was read, each from its own key. -/
theorem ofFields_eq_valid_iff {ticket : Ticket} {fs : Fields} {s : SavedFilter} :
    ofFields ticket fs = .valid s ↔
      optional fs "id" ticket.id text = .valid s.id ∧
      required fs "name" filledText = .valid s.name ∧
      optional fs "description" none (nullable text) = .valid s.description ∧
      required fs "filter" filledText = .valid s.filter ∧
      optional fs "project_id" none (nullable integer) = .valid s.projectId ∧
      optional fs "is_global" false truth = .valid s.isGlobal ∧
      optional fs "created" ticket.time timestamp = .valid s.created ∧
      optional fs "updated" ticket.time timestamp = .valid s.updated := by
  have hmap {α β : Type} (f : α → β) (c : Checked α) : f <$> c = c.map f := rfl
  simp only [ofFields, Checked.seq_eq_valid_iff, hmap, Checked.map_eq_valid_iff]
  constructor
  · rintro ⟨_, _, ⟨_, _, ⟨_, _, ⟨_, _, ⟨_, _, ⟨_, _, ⟨_, _, ⟨_, hid, rfl⟩, hname, rfl⟩, hdescription,
      rfl⟩, hfilter, rfl⟩, hproject, rfl⟩, hglobal, rfl⟩, hcreated, rfl⟩, hupdated, rfl⟩
    exact ⟨hid, hname, hdescription, hfilter, hproject, hglobal, hcreated, hupdated⟩
  · rintro ⟨hid, hname, hdescription, hfilter, hproject, hglobal, hcreated, hupdated⟩
    exact ⟨_, _, ⟨_, _, ⟨_, _, ⟨_, _, ⟨_, _, ⟨_, _, ⟨_, _, ⟨_, hid, rfl⟩, hname, rfl⟩, hdescription,
      rfl⟩, hfilter, rfl⟩, hproject, rfl⟩, hglobal, rfl⟩, hcreated, rfl⟩, hupdated, rfl⟩

/-! ## Changes -/

/-- What a field is after changes: the value that its reader takes from the change that names it,
and the old value if none does. -/
def FieldAfter {α : Type} (changes : Fields) (key : String) (item : Datum → Checked α)
    (old new : α) : Prop :=
  match Fields.get? changes key with
  | some d => item d = .valid new
  | none => new = old

/-- How a filter comes out of changes that are made at a time. -/
structure ChangedBy (changes : Fields) (time : Calendar.Stamp) (old new : SavedFilter) : Prop where
  id : new.id = old.id
  created : new.created = old.created
  updated : new.updated = time
  name : FieldAfter changes "name" filledText old.name new.name
  description : FieldAfter changes "description" (nullable text) old.description new.description
  filter : FieldAfter changes "filter" filledText old.filter new.filter
  projectId : FieldAfter changes "project_id" (nullable integer) old.projectId new.projectId
  isGlobal : FieldAfter changes "is_global" truth old.isGlobal new.isGlobal
  named : new.name ≠ ""

/-- The fields of a filter with changes put over them and the time of change set. -/
def fieldsAfter (s : SavedFilter) (changes : Fields) (time : Calendar.Stamp) : Fields :=
  Fields.put (changes.foldl (fun fs c => Fields.put fs c.1 c.2) s.toFields) "updated" (.stamp time)

section

variable {s : SavedFilter} {changes : Fields} {time : Calendar.Stamp} {key : String}

theorem get?_fieldsAfter (hkeys : (changes.map Prod.fst).Nodup) (hkey : key ≠ "updated") :
    Fields.get? (s.fieldsAfter changes time) key =
      (Fields.get? changes key).or (Fields.get? s.toFields key) := by
  rw [fieldsAfter, Fields.get?_put, if_neg hkey, Fields.get?_foldl_put hkeys]

theorem get?_fieldsAfter_updated :
    Fields.get? (s.fieldsAfter changes time) "updated" = some (.stamp time) := by
  rw [fieldsAfter, Fields.get?_put, if_pos rfl]

/-- A field that was shown as `d` and read from the changed fields is as changes leave it. -/
theorem fieldAfter_of_get? {α : Type} {item : Datum → Checked α} {d shown : Datum} {old new : α}
    (hkeys : (changes.map Prod.fst).Nodup) (hkey : key ≠ "updated")
    (hshown : Fields.get? s.toFields key = some shown)
    (hback : ∀ a, item shown = .valid a → a = old)
    (hd : Fields.get? (s.fieldsAfter changes time) key = some d) (hnew : item d = .valid new) :
    FieldAfter changes key item old new := by
  rw [get?_fieldsAfter hkeys hkey, hshown] at hd
  unfold FieldAfter
  cases hchange : Fields.get? changes key with
  | none =>
    rw [hchange] at hd
    obtain rfl : shown = d := Option.some.inj hd
    exact hback new hnew
  | some c =>
    rw [hchange] at hd
    obtain rfl : c = d := Option.some.inj hd
    exact hnew

theorem fieldAfter_of_required {α : Type} {item : Datum → Checked α} {shown : Datum} {old new : α}
    (hkeys : (changes.map Prod.fst).Nodup) (hkey : key ≠ "updated")
    (hshown : Fields.get? s.toFields key = some shown)
    (hback : ∀ a, item shown = .valid a → a = old)
    (h : required (s.fieldsAfter changes time) key item = .valid new) :
    FieldAfter changes key item old new := by
  obtain ⟨d, hd, hnew⟩ := required_eq_valid_iff.1 h
  exact fieldAfter_of_get? hkeys hkey hshown hback hd hnew

theorem fieldAfter_of_optional {α : Type} {item : Datum → Checked α} {shown : Datum}
    {old new default : α} (hkeys : (changes.map Prod.fst).Nodup) (hkey : key ≠ "updated")
    (hshown : Fields.get? s.toFields key = some shown)
    (hback : ∀ a, item shown = .valid a → a = old)
    (h : optional (s.fieldsAfter changes time) key default item = .valid new) :
    FieldAfter changes key item old new := by
  obtain ⟨d, hd⟩ : ∃ d, Fields.get? (s.fieldsAfter changes time) key = some d := by
    rw [get?_fieldsAfter hkeys hkey, hshown]
    cases Fields.get? changes key <;> simp
  exact fieldAfter_of_get? hkeys hkey hshown hback hd (optional_of_some hd h)

/-- A filter that is read from the changed fields of another is that one, changed. -/
theorem changedBy_of_ofFields {new : SavedFilter} {ticket : Ticket}
    (hkeys : (changes.map Prod.fst).Nodup) (hid : Fields.get? changes "id" = none)
    (hcreated : Fields.get? changes "created" = none)
    (h : ofFields ticket (s.fieldsAfter changes time) = .valid new) :
    ChangedBy changes time s new := by
  obtain ⟨id, name, description, filter, project, global, created, updated⟩ :=
    ofFields_eq_valid_iff.1 h
  have unchanged {α : Type} {key : String} {item : Datum → Checked α} {old new : α}
      (hnone : Fields.get? changes key = none) (hafter : FieldAfter changes key item old new) :
      new = old := by
    rwa [FieldAfter, hnone] at hafter
  exact {
    id := unchanged hid (fieldAfter_of_optional hkeys (by decide) rfl
      (fun a ha => (Datum.text.inj (text_eq_valid_iff.1 ha)).symm) id)
    created := unchanged hcreated (fieldAfter_of_optional hkeys (by decide) rfl
      (fun a ha => (Checked.valid.inj ha).symm) created)
    updated := by
      have hstamp : timestamp (.stamp time) = .valid new.updated :=
        optional_of_some get?_fieldsAfter_updated updated
      exact (Checked.valid.inj hstamp).symm
    name := fieldAfter_of_required hkeys (by decide) rfl
      (fun a ha => (Datum.text.inj (filledText_eq_valid_iff.1 ha).1).symm) name
    description := fieldAfter_of_optional hkeys (by decide) rfl
      (fun a ha => (Checked.valid.inj ((nullable_text_ofOption _).symm.trans ha)).symm) description
    filter := fieldAfter_of_required hkeys (by decide) rfl
      (fun a ha => (Datum.text.inj (filledText_eq_valid_iff.1 ha).1).symm) filter
    projectId := fieldAfter_of_optional hkeys (by decide) rfl
      (fun a ha => (Checked.valid.inj ((nullable_integer_ofOption _).symm.trans ha)).symm) project
    isGlobal := fieldAfter_of_optional hkeys (by decide) rfl
      (fun a ha => (Checked.valid.inj ha).symm) global
    named := by
      obtain ⟨d, -, hd⟩ := required_eq_valid_iff.1 name
      exact (filledText_eq_valid_iff.1 hd).2 }

end

end SavedFilter

end TaskSieve
