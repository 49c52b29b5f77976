import TaskSieve.Proofs.Datum.Reading
import TaskSieve.Proofs.Saved.Store
import TaskSieve.Saved.Sessions

set_option autoImplicit false

/-! # Files that stores were written to

A file that was only ever written by sessions holds one entry for each of them, the list of its
filters. Writing a store replaces one entry, if no project of its filters has a number with too many
digits (`save_textOf_eq_ok_iff`), and reading one back gives filters with the same ids and names
(`exists_rereads_of_load`), so a sound store is read back as a sound store. -/

namespace TaskSieve

open Schema

/-! ## Setting the store of a session -/

namespace Sessions

theorem lookup_setStore (session other : String) (store : Store) (stores : List (String × Store)) :
    (setStore session store stores).lookup other =
      if other = session then some store else stores.lookup other := by
  induction stores with
  | nil => exact lookup_cons_eq_ite session other store []
  | cons k rest ih =>
    obtain ⟨id, old⟩ := k
    rw [setStore]
    by_cases hid : id = session
    · subst hid
      rw [if_pos rfl, lookup_cons_eq_ite, lookup_cons_eq_ite]
      split <;> rfl
    · rw [if_neg hid, lookup_cons_eq_ite, lookup_cons_eq_ite, ih]
      by_cases h : other = id
      · simp [h, hid]
      · simp [h]

theorem mem_setStore {session : String} {store : Store} {stores : List (String × Store)}
    {k : String × Store} (h : k ∈ setStore session store stores) :
    k ∈ stores ∨ k = (session, store) := by
  induction stores with
  | nil => exact .inr (List.mem_singleton.1 h)
  | cons k' rest ih =>
    obtain ⟨id, old⟩ := k'
    rw [setStore] at h
    split at h
    · next hid =>
      rcases List.mem_cons.1 h with rfl | hrest
      · exact .inr (by rw [hid])
      · exact .inl (List.mem_cons_of_mem _ hrest)
    · rcases List.mem_cons.1 h with rfl | hrest
      · exact .inl List.mem_cons_self
      · exact (ih hrest).imp_left (List.mem_cons_of_mem _)

end Sessions

/-! ## What can be written -/

/-- Whether a filter can be written: the number of its project, if it has one, is short enough. -/
def SavedFilter.Short (s : SavedFilter) : Prop :=
  ∀ n, s.projectId = some n → Overlong.ofInt? n = none

theorem SavedFilter.overlong?_toDatum_eq_none_iff {s : SavedFilter} :
    s.toDatum.overlong? = none ↔ s.Short := by
  rw [toDatum, Datum.overlong?, Datum.overlongFields?_eq_none_iff, Short]
  cases s.description <;> cases s.projectId <;> simp [Datum.ofOption, Datum.overlong?]

/-- Whether every filter of a store can be written. -/
def Store.Short (store : Store) : Prop := ∀ s ∈ store, s.Short

theorem Store.short_nil : Short [] := by simp [Short]

theorem Store.Short.put {store : Store} (h : store.Short) {s : SavedFilter} (hs : s.Short) :
    (store.put s).Short := by
  induction store with
  | nil => exact List.forall_mem_singleton.2 hs
  | cons t rest ih =>
    obtain ⟨ht, hrest⟩ := List.forall_mem_cons.1 h
    rw [Store.put]
    split
    · exact List.forall_mem_cons.2 ⟨hs, hrest⟩
    · exact List.forall_mem_cons.2 ⟨ht, ih hrest⟩

namespace SavedFile

open Sessions (setStore)

/-! ## The text of a file -/

/-- The entry of a store in a file. -/
def entryOf (store : Store) : Datum := .list (store.map SavedFilter.toDatum)

/-- The fields of a file that holds the stores of sessions. -/
def fieldsOf (kept : List (String × Store)) : Fields := kept.map fun k => (k.1, entryOf k.2)

/-- The text of a file that holds the stores of sessions. -/
def textOf (kept : List (String × Store)) : String :=
  String.ofList (Datum.Writer.valueText 0 (.record (fieldsOf kept)))

theorem overlong?_entryOf_eq_none_iff {store : Store} :
    (entryOf store).overlong? = none ↔ store.Short := by
  rw [entryOf, Datum.overlong?, Datum.overlongItems?_eq_none_iff, List.forall_mem_map]
  exact forall₂_congr fun s _ => SavedFilter.overlong?_toDatum_eq_none_iff

/-- Stores can be written to a file if each of them can. -/
theorem overlong?_fieldsOf_eq_none_iff {kept : List (String × Store)} :
    (Datum.record (fieldsOf kept)).overlong? = none ↔ ∀ k ∈ kept, k.2.Short := by
  rw [Datum.overlong?, Datum.overlongFields?_eq_none_iff, fieldsOf, List.forall_mem_map]
  exact forall₂_congr fun k _ => overlong?_entryOf_eq_none_iff

theorem map_fst_fieldsOf (kept : List (String × Store)) :
    (fieldsOf kept).map Prod.fst = kept.map Prod.fst := by
  simp [fieldsOf]

theorem get?_fieldsOf (kept : List (String × Store)) (session : String) :
    Fields.get? (fieldsOf kept) session = (kept.lookup session).map entryOf :=
  lookup_map_snd entryOf kept session

theorem put_fieldsOf (kept : List (String × Store)) (session : String) (store : Store) :
    (fieldsOf kept).put session (entryOf store) = fieldsOf (setStore session store kept) := by
  induction kept with
  | nil => rfl
  | cons k rest ih =>
    rw [fieldsOf, List.map_cons, Fields.put, setStore]
    by_cases h : k.1 = session
    · simp [h, fieldsOf]
    · rw [if_neg (by simpa using h), if_neg h]
      exact congrArg (_ :: ·) ih

theorem nodup_setStore {session : String} {store : Store} {kept : List (String × Store)}
    (h : (kept.map Prod.fst).Nodup) : ((setStore session store kept).map Prod.fst).Nodup := by
  rw [← map_fst_fieldsOf, ← put_fieldsOf]
  exact Fields.nodup_put _ _ (by rwa [map_fst_fieldsOf])

theorem plain_toDatum {s : SavedFilter} (short : s.Short) : s.toDatum.Plain := by
  have plain_description : (Datum.ofOption .text s.description).Plain := by
    cases s.description with
    | none => exact .null
    | some t => exact .text t
  have plain_project : (Datum.ofOption .int s.projectId).Plain := by
    cases hproject : s.projectId with
    | none => exact .null
    | some n => exact .int (short n hproject)
  refine .record (by simp) ?_
  simp only [List.forall_mem_cons]
  exact ⟨.text _, .text _, plain_description, .text _, plain_project, .bool _, .text _, .text _,
    by simp⟩

theorem plain_entryOf {store : Store} (short : store.Short) : (entryOf store).Plain := by
  refine .list fun d hd => ?_
  obtain ⟨s, hs, rfl⟩ := List.mem_map.1 hd
  exact plain_toDatum (short s hs)

variable {kept : List (String × Store)}

theorem plain_fieldsOf (keys : (kept.map Prod.fst).Nodup) (short : ∀ k ∈ kept, k.2.Short) :
    (Datum.record (fieldsOf kept)).Plain := by
  refine .record (by rwa [map_fst_fieldsOf]) fun f hf => ?_
  obtain ⟨k, hk, rfl⟩ := List.mem_map.1 hf
  exact plain_entryOf (short k hk)

theorem write_fieldsOf_eq_ok_iff {text : String} :
    (Datum.record (fieldsOf kept)).write = .ok text ↔
      (∀ k ∈ kept, k.2.Short) ∧ textOf kept = text :=
  Datum.write_eq_ok_iff.trans (and_congr_left' overlong?_fieldsOf_eq_none_iff)

theorem read_textOf (keys : (kept.map Prod.fst).Nodup) (short : ∀ k ∈ kept, k.2.Short) :
    Datum.read (textOf kept) = .ok (.record (fieldsOf kept)) :=
  Datum.read_write (plain_fieldsOf keys short) (write_fieldsOf_eq_ok_iff.2 ⟨short, rfl⟩)

/-! ## Writing and reading an entry -/

theorem forall_mem_setStore_iff {P : Store → Prop} {session : String} {store : Store}
    (h : ∀ k ∈ kept, P k.2) : (∀ k ∈ setStore session store kept, P k.2) ↔ P store := by
  constructor
  · intro hset
    have hlookup : (setStore session store kept).lookup session = some store := by
      rw [Sessions.lookup_setStore, if_pos rfl]
    exact hset _ (mem_of_lookup hlookup)
  · intro hstore k hk
    rcases Sessions.mem_setStore hk with hold | rfl
    · exact h k hold
    · exact hstore

theorem write_put_fieldsOf_eq_ok_iff (short : ∀ k ∈ kept, k.2.Short) {session : String}
    {store : Store} {text : String} :
    ((Datum.record ((fieldsOf kept).put session (entryOf store))).write.mapError
        FileError.overlong) = .ok text ↔
      store.Short ∧ textOf (setStore session store kept) = text := by
  rw [mapError_eq_ok_iff, put_fieldsOf, write_fieldsOf_eq_ok_iff, forall_mem_setStore_iff short]

theorem save_none_eq_ok_iff {session : String} {store : Store} {text : String} :
    save session store none = .ok text ↔ store.Short ∧ textOf (setStore session store []) = text :=
  write_put_fieldsOf_eq_ok_iff (List.forall_mem_nil _)

/-- A write to a file of stores replaces the store of its session, if it can be written. -/
theorem save_textOf_eq_ok_iff (keys : (kept.map Prod.fst).Nodup) (short : ∀ k ∈ kept, k.2.Short)
    {session : String} {store : Store} {text : String} :
    save session store (some (textOf kept)) = .ok text ↔
      store.Short ∧ textOf (setStore session store kept) = text := by
  simp only [save, read_textOf keys short]
  exact write_put_fieldsOf_eq_ok_iff short

/-- Fields that were read are written with another one put among them if that one can be. -/
theorem overlong?_put_eq_none_iff {fields : Fields} (hplain : (Datum.record fields).Plain)
    {key : String} {d : Datum} :
    (Datum.record (fields.put key d)).overlong? = none ↔ d.overlong? = none := by
  have hfields : ∀ f ∈ fields, f.2.overlong? = none :=
    Datum.overlongFields?_eq_none_iff.1 hplain.overlong?_eq_none
  rw [Datum.overlong?, Datum.overlongFields?_eq_none_iff]
  constructor
  · intro h
    have hlookup : Fields.get? (fields.put key d) key = some d := by
      rw [Fields.get?_put, if_pos rfl]
    exact h _ (mem_of_lookup hlookup)
  · intro hd f hf
    rcases Fields.mem_put hf with hold | hnew
    · exact hfields f hold
    · rwa [hnew]

/-- Whatever stands in a file, a store can be written to it if the file is absent or holds an object
and the numbers of all projects are short enough. -/
theorem exists_save_iff {session : String} {store : Store} {file : Option String} :
    (∃ text, save session store file = .ok text) ↔
      (∀ source, file = some source → ∃ fields, Datum.read source = .ok (.record fields)) ∧
        store.Short := by
  cases file with
  | none => simp [save_none_eq_ok_iff]
  | some source =>
    simp only [save, Option.some.injEq, forall_eq']
    cases hread : Datum.read source with
    | error e => simp
    | ok d =>
      cases d with
      | record fields =>
        rw [← entryOf]
        simp only [mapError_eq_ok_iff, Datum.write_eq_ok_iff,
          overlong?_put_eq_none_iff (Datum.plain_of_read hread), overlong?_entryOf_eq_none_iff]
        simp
      | _ => simp

/-- A filter that was read from what another one is written as. -/
def Rereads (ticket : Ticket) (s s' : SavedFilter) : Prop :=
  SavedFilter.ofDatum ticket s.toDatum = .valid s'

theorem Rereads.same {ticket : Ticket} {s s' : SavedFilter} (h : Rereads ticket s s') :
    s'.id = s.id ∧ s'.name = s.name := by
  obtain ⟨id, name, -⟩ := SavedFilter.ofFields_eq_valid_iff.1 h
  have hid : text (.text s.id) = .valid s'.id := optional_of_some rfl id
  obtain ⟨d, hd, hname⟩ := required_eq_valid_iff.1 name
  obtain rfl : Datum.text s.name = d := Option.some.inj hd
  exact ⟨(Datum.text.inj (text_eq_valid_iff.1 hid)).symm,
    (Datum.text.inj (filledText_eq_valid_iff.1 hname).1).symm⟩

/-- Filters with different ids are read one after another, each to its own place. -/
theorem exists_rereads_of_readEntries {ticket : Ticket} {store acc loaded : Store}
    (hids : (acc.map SavedFilter.id ++ store.map SavedFilter.id).Nodup)
    (h : readEntries ticket acc (store.map SavedFilter.toDatum) = .ok loaded) :
    ∃ more, loaded = acc ++ more ∧ List.Forall₂ (Rereads ticket) store more := by
  -- induction on the filters that are left; `acc` has those that were read
  induction store generalizing acc with
  | nil =>
    cases h
    exact ⟨[], by simp, .nil⟩
  | cons s rest ih =>
    rw [List.map_cons, readEntries] at h
    split at h
    · cases h
    · next s' hs =>
      have hsame : s'.id = s.id := (Rereads.same hs).1
      have hnew : s'.id ∉ acc.map SavedFilter.id := by
        rw [List.map_cons, List.nodup_append] at hids
        rw [hsame]
        exact fun hmem => hids.2.2 _ hmem _ List.mem_cons_self rfl
      rw [Store.put_of_new hnew] at h
      obtain ⟨more, rfl, hmore⟩ := ih (by simpa [hsame] using hids) h
      exact ⟨s' :: more, by simp, .cons hs hmore⟩

/-- A session loads its own entry; without one it has no filters. -/
theorem load_textOf (keys : (kept.map Prod.fst).Nodup) (short : ∀ k ∈ kept, k.2.Short)
    (session : String) (ticket : Ticket) :
    load session ticket (some (textOf kept)) =
      readEntries ticket [] (((kept.lookup session).getD []).map SavedFilter.toDatum) := by
  simp only [load, read_textOf keys short, get?_fieldsOf]
  cases kept.lookup session <;> rfl

/-- What a session loads from a file of stores are its own filters, read again. -/
theorem exists_rereads_of_load (keys : (kept.map Prod.fst).Nodup) (short : ∀ k ∈ kept, k.2.Short)
    {session : String} {ticket : Ticket} {store loaded : Store}
    (hstore : (kept.lookup session).getD [] = store) (hids : (store.map SavedFilter.id).Nodup)
    (h : load session ticket (some (textOf kept)) = .ok loaded) :
    List.Forall₂ (Rereads ticket) store loaded := by
  rw [load_textOf keys short, hstore] at h
  have hnodup : (([] : Store).map SavedFilter.id ++ store.map SavedFilter.id).Nodup := by
    simpa using hids
  obtain ⟨more, rfl, hmore⟩ := exists_rereads_of_readEntries hnodup h
  exact hmore

theorem map_eq_of_rereads {α : Type} {f : SavedFilter → α} {ticket : Ticket} {store loaded : Store}
    (hf : ∀ s s', Rereads ticket s s' → f s' = f s)
    (h : List.Forall₂ (Rereads ticket) store loaded) : loaded.map f = store.map f := by
  induction h with
  | nil => rfl
  | cons hs _ ih => rw [List.map_cons, List.map_cons, hf _ _ hs, ih]

/-! ## Files of sound stores -/

/-- A file that is absent or holds sound stores, in which all ids were given out before. -/
inductive HoldsSound (known : List String) : Option String → Prop
  | absent : HoldsSound known none
  | written {kept : List (String × Store)} (keys : (kept.map Prod.fst).Nodup)
      (short : ∀ k ∈ kept, k.2.Short) (sound : ∀ k ∈ kept, k.2.Sound)
      (within : ∀ k ∈ kept, k.2.Within known) : HoldsSound known (some (textOf kept))

theorem HoldsSound.mono {known more : List String} {file : Option String}
    (h : HoldsSound known file) : HoldsSound (known ++ more) file := by
  cases h with
  | absent => exact .absent
  | written keys short sound within =>
    exact .written keys short sound fun k hk s hs => List.mem_append_left _ (within k hk s hs)

/-- A sound store that is written to a file of sound stores leaves it one. -/
theorem HoldsSound.save {known : List String} {file : Option String} (h : HoldsSound known file)
    {session : String} {store : Store} (hs : store.Sound) (hknown : store.Within known)
    {text : String} (hsave : save session store file = .ok text) :
    HoldsSound known (some text) := by
  -- whatever the file kept, only the entry of the session is new in it
  have holds {kept : List (String × Store)} (keys : (kept.map Prod.fst).Nodup)
      (short : ∀ k ∈ kept, k.2.Short) (sound : ∀ k ∈ kept, k.2.Sound)
      (within : ∀ k ∈ kept, k.2.Within known) (hstore : store.Short) :
      HoldsSound known (some (textOf (setStore session store kept))) :=
    .written (nodup_setStore keys) ((forall_mem_setStore_iff short).2 hstore)
      ((forall_mem_setStore_iff sound).2 hs) ((forall_mem_setStore_iff within).2 hknown)
  cases h with
  | absent =>
    obtain ⟨hstore, rfl⟩ := save_none_eq_ok_iff.1 hsave
    exact holds List.nodup_nil (by simp) (by simp) (by simp) hstore
  | written keys short sound within =>
    obtain ⟨hstore, rfl⟩ := (save_textOf_eq_ok_iff keys short).1 hsave
    exact holds keys short sound within hstore

/-- What is loaded from a file of sound stores is a sound store. -/
theorem HoldsSound.load {known : List String} {file : Option String} (h : HoldsSound known file)
    {session : String} {ticket : Ticket} {loaded : Store}
    (hload : load session ticket file = .ok loaded) : loaded.Sound ∧ loaded.Within known := by
  cases h with
  | absent =>
    cases hload
    exact ⟨Store.sound_nil, Store.within_nil known⟩
  | @written kept keys short sound within =>
    obtain ⟨store, hstore, hs, hknown⟩ : ∃ store, (kept.lookup session).getD [] = store ∧
        store.Sound ∧ store.Within known := by
      cases hlookup : kept.lookup session with
      | none => exact ⟨[], rfl, Store.sound_nil, Store.within_nil known⟩
      | some store =>
        have hmem := mem_of_lookup hlookup
        exact ⟨store, rfl, sound _ hmem, within _ hmem⟩
    have hread := exists_rereads_of_load keys short hstore hs.ids hload
    have hids := map_eq_of_rereads (fun _ _ h => (Rereads.same h).1) hread
    have hnames := map_eq_of_rereads (fun _ _ h => (Rereads.same h).2) hread
    exact ⟨hs.of_map_eq hids hnames, hknown.of_map_eq hids⟩

end SavedFile

end TaskSieve
