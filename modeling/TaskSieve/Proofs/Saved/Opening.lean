import TaskSieve.Proofs.Datum.Reading
import TaskSieve.Proofs.Saved.Mirror
import TaskSieve.Proofs.Schema.Accepted

set_option autoImplicit false

/-! # Files that open

A file need not have been written by sessions: any text opens that is JSON and, if it is an object,
lists filters under the id of the session. What was read from it is storable, so it can be written
back, next to the entries of other sessions, whatever they are. Three things stand in the way of
what one expects after that: a file opens without being an object, and then it cannot be written to;
a new filter has a project whose number has too many digits to be written; and filters open without
an offset in their times of creation, and then they have no order together with a new one. -/

namespace TaskSieve

open Schema
open Schema.Timestamp (IsUniversal IsWritten isWritten_of_timestamp)

/-! ## What a file opens to -/

namespace SavedFilter

variable {ticket : Ticket}

theorem isWritten_of_optional {fs : Fields} {key : String} {default s : Calendar.Stamp}
    (hplain : ∀ f ∈ fs, f.2.Plain) (hdefault : IsWritten default)
    (h : optional fs key default timestamp = .valid s) : IsWritten s := by
  cases hget : Fields.get? fs key with
  | none => exact optional_of_none hget h ▸ hdefault
  | some d =>
    have hd : d.Plain := hplain (key, d) (mem_of_lookup hget)
    refine isWritten_of_timestamp (optional_of_some hget h) ?_ ?_
    · rintro t rfl
      cases hd
    · rintro n rfl
      cases hd

/-- A number that is read as an integer is small. -/
theorem ofInt?_of_integer_num {x : Binary64} {n : Int} (h : integer (.num x) = .valid n) :
    Overlong.ofInt? n = none := by
  simp only [integer] at h
  split at h
  · cases h
  split at h
  · cases h
  split at h
  · next hsmall =>
    cases h
    have hbound : n.natAbs ≤ integerLimit.natAbs := by omega
    have hlimit : Decimal.width integerLimit.natAbs ≤ digitLimit := by decide +kernel
    exact Overlong.ofInt?_eq_none_iff.2 ((Decimal.width_le_of_le hbound).trans hlimit)
  · cases h

/-- A text that is read as an integer has few enough figures. -/
theorem ofInt?_of_integer_text {s : String} {n : Int} (h : integer (.text s) = .valid n) :
    Overlong.ofInt? n = none := by
  rw [integer, integerOfText] at h
  split at h
  · cases h
  next hdigits =>
  split at h
  · next hshort =>
    cases h
    obtain ⟨ds, -, hread⟩ := Option.bind_eq_some_iff.1 hdigits
    obtain ⟨n, hn, hpair⟩ := Option.map_eq_some_iff.1 hread
    cases hpair
    exact Overlong.ofInt?_of_readInteger? hn hshort
  · cases h

/-- An integer that is read from what a file can hold can be written. -/
theorem ofInt?_of_integer {d : Datum} (hd : d.Plain) {n : Int} (h : integer d = .valid n) :
    Overlong.ofInt? n = none := by
  cases hd with
  | bool b =>
    cases h
    cases b <;> decide
  | int short =>
    cases h
    exact short
  | num => exact ofInt?_of_integer_num h
  | text s => exact ofInt?_of_integer_text h
  | null | list | record => cases h

/-- A filter that is read from what a file can hold can be written. -/
theorem short_of_ofDatum {d : Datum} (hd : d.Plain) {s : SavedFilter}
    (h : ofDatum ticket d = .valid s) : s.Short := by
  cases hd with
  | @record fields keys all =>
    obtain ⟨-, -, -, -, project, -⟩ := ofFields_eq_valid_iff.1 h
    cases hget : Fields.get? fields "project_id" with
    | none =>
      intro n hn
      rw [optional_of_none hget project] at hn
      cases hn
    | some e =>
      have he : e.Plain := all ("project_id", e) (mem_of_lookup hget)
      exact of_nullable (optional_of_some hget project) fun _ => ofInt?_of_integer he
  | null | bool | int | num | text | list => cases h

/-- A filter that is read from what a file can hold is storable. -/
theorem storable_of_ofDatum (clock : IsUniversal ticket.time) {d : Datum} (hd : d.Plain)
    {s : SavedFilter} (h : ofDatum ticket d = .valid s) : s.Storable := by
  cases hd with
  | @record fields keys all =>
    obtain ⟨-, name, -, filter, -, -, created, updated⟩ := ofFields_eq_valid_iff.1 h
    obtain ⟨_, -, hname⟩ := required_eq_valid_iff.1 name
    obtain ⟨_, -, hfilter⟩ := required_eq_valid_iff.1 filter
    exact {
      named := (filledText_eq_valid_iff.1 hname).2
      filled := (filledText_eq_valid_iff.1 hfilter).2
      created := isWritten_of_optional all clock.isWritten created
      updated := isWritten_of_optional all clock.isWritten updated }
  | null | bool | int | num | text | list => cases h

end SavedFilter

namespace SavedFile

/-- Whether items are read into a store one after another. Each of them has a ticket of its own, for
the id and the times that it does not give. -/
inductive Reads : Store → List Datum → Store → Prop
  | done (store : Store) : Reads store [] store
  | next {store loaded : Store} {d : Datum} {rest : List Datum} {ticket : Ticket} {s : SavedFilter}
      (clock : IsUniversal ticket.time) (item : SavedFilter.ofDatum ticket d = .valid s)
      (more : Reads (store.put s) rest loaded) : Reads store (d :: rest) loaded

/-- Whether a file opens to a store of a session: it is absent, it is no object, or it lists filters
under the id of the session. -/
inductive Opens (session : String) : (file : Option String) → Store → Prop
  | absent : Opens session none []
  | noObject {source : String} {d : Datum} (read : Datum.read source = .ok d)
      (other : d.fields? = none) : Opens session (some source) []
  | object {source : String} {fields : Fields} {items : List Datum} {store : Store}
      (read : Datum.read source = .ok (.record fields))
      (entry : entries? ((Fields.get? fields session).getD (.list [])) = some items)
      (each : Reads [] items store) : Opens session (some source) store

variable {session : String} {file : Option String} {store loaded : Store} {ticket : Ticket}

theorem reads_of_readEntries (clock : IsUniversal ticket.time) {items : List Datum}
    (h : readEntries ticket store items = .ok loaded) : Reads store items loaded := by
  induction items generalizing store with
  | nil =>
    cases h
    exact .done _
  | cons d rest ih =>
    rw [readEntries] at h
    split at h
    · cases h
    · next hitem => exact .next clock hitem (ih h)

/-- What a session loads, with one ticket for all, is what the file opens to. -/
theorem opens_of_load (clock : IsUniversal ticket.time)
    (h : load session ticket file = .ok loaded) : Opens session file loaded := by
  cases file with
  | none =>
    cases h
    exact .absent
  | some source =>
    simp only [load] at h
    split at h
    · cases h
    · next hread =>
      split at h
      · cases h
      · next hentry => exact .object hread hentry (reads_of_readEntries clock h)
    · next d hother hread =>
      cases h
      refine .noObject hread ?_
      cases d <;> first | rfl | exact absurd rfl (hother _)

theorem Reads.storable {items : List Datum} (h : Reads store items loaded)
    (hplain : ∀ d ∈ items, d.Plain) (hstore : store.Storable) : loaded.Storable := by
  induction h with
  | done => exact hstore
  | next clock item _ ih =>
    obtain ⟨hd, hrest⟩ := List.forall_mem_cons.1 hplain
    exact ih hrest (hstore.put (SavedFilter.storable_of_ofDatum clock hd item))

theorem Reads.short {items : List Datum} (h : Reads store items loaded)
    (hplain : ∀ d ∈ items, d.Plain) (hstore : store.Short) : loaded.Short := by
  induction h with
  | done => exact hstore
  | next clock item _ ih =>
    obtain ⟨hd, hrest⟩ := List.forall_mem_cons.1 hplain
    exact ih hrest (hstore.put (SavedFilter.short_of_ofDatum hd item))

theorem plain_of_entries? {d : Datum} (hd : d.Plain) {items : List Datum}
    (h : entries? d = some items) : ∀ e ∈ items, e.Plain := by
  cases hd with
  | list all =>
    cases h
    exact all
  | text s =>
    cases h
    intro e he
    obtain ⟨c, -, rfl⟩ := List.mem_map.1 he
    exact .text _
  | record keys all =>
    cases h
    intro e he
    obtain ⟨f, -, rfl⟩ := List.mem_map.1 he
    exact .text _
  | null | bool | int | num => cases h

theorem plain_of_contents? {fields : Fields} (h : contents? file = some fields) :
    (Datum.record fields).Plain := by
  cases file with
  | none =>
    cases h
    exact .record List.nodup_nil (by simp)
  | some source =>
    obtain ⟨d, hread, hfields⟩ := Option.bind_eq_some_iff.1 h
    have hd := Datum.plain_of_read (toOption_eq_some_iff.1 hread)
    cases d <;> cases hfields
    exact hd

theorem plain_getD {fields : Fields} (h : (Datum.record fields).Plain) {default : Datum}
    (hdefault : default.Plain) (key : String) : ((Fields.get? fields key).getD default).Plain := by
  cases hget : Fields.get? fields key with
  | none => exact hdefault
  | some d =>
    cases h with
    | record keys all => exact all (key, d) (mem_of_lookup hget)

/-- Whatever a file lists for a session is plain. -/
theorem plain_of_entry {source : String} {fields : Fields} {items : List Datum}
    (read : Datum.read source = .ok (.record fields))
    (entry : entries? ((Fields.get? fields session).getD (.list [])) = some items) :
    ∀ d ∈ items, d.Plain := by
  have hnone : (Datum.list []).Plain := .list fun d hd => absurd hd List.not_mem_nil
  exact plain_of_entries? (plain_getD (Datum.plain_of_read read) hnone session) entry

/-- Whatever a file opens to can be stored. -/
theorem Opens.storable (h : Opens session file store) : store.Storable := by
  cases h with
  | absent => exact Store.storable_nil
  | noObject => exact Store.storable_nil
  | object read entry each => exact each.storable (plain_of_entry read entry) Store.storable_nil

/-- Whatever a file opens to can be written. -/
theorem Opens.short (h : Opens session file store) : store.Short := by
  cases h with
  | absent => exact Store.short_nil
  | noObject => exact Store.short_nil
  | object read entry each => exact each.short (plain_of_entry read entry) Store.short_nil

/-! ## What is written to it -/

/-- A file that opens without holding an object cannot be written to. -/
theorem Opens.save_eq_error (h : Opens session file store) (hnone : contents? file = none)
    (other : Store) : save session other file = .error .notObject := by
  cases h with
  | absent => cases hnone
  | @noObject source d read hother =>
    simp only [save, read]
    cases d <;> first | rfl | cases hother
  | object read =>
    rw [contents?, read] at hnone
    cases hnone

/-- A write to a file that is absent or holds an object replaces the entry of the session. -/
theorem save_of_contents? {fields : Fields} (h : contents? file = some fields) :
    save session store file =
      (Datum.record (fields.put session (entryOf store))).write.mapError .overlong := by
  cases file with
  | none =>
    cases h
    rfl
  | some source =>
    obtain ⟨d, hsource, hfields⟩ := Option.bind_eq_some_iff.1 h
    cases d <;> cases hfields
    simp only [save, toOption_eq_some_iff.1 hsource]
    rfl

/-- A file that is absent or holds an object can be written to. The entry of the session is then
read back as the store that was written, and the other entries stay. -/
theorem exists_save_of_contents? {fields : Fields} (h : contents? file = some fields)
    (session : String) (hstore : store.Storable) (short : store.Short) :
    ∃ text, save session store file = .ok text ∧
      contents? (some text) = some (fields.put session (entryOf store)) ∧
      ∀ ticket, load session ticket (some text) = .ok store := by
  -- only the entry of the session is new, and its numbers are short
  have hplain : (Datum.record (fields.put session (entryOf store))).Plain := by
    cases plain_of_contents? h with
    | record keys all =>
      refine .record (Fields.nodup_put _ _ keys) fun f hf => ?_
      rcases Fields.mem_put hf with hf | hf
      · exact all f hf
      · rw [hf]
        exact plain_entryOf short
  obtain ⟨text, hwrite, hread⟩ := hplain.exists_write
  refine ⟨text, ?_, ?_, fun ticket => ?_⟩
  · rw [save_of_contents? h, hwrite]
    rfl
  · rw [contents?, hread]
    rfl
  · simp only [load, hread, Fields.get?_put, ↓reduceIte, Option.getD_some]
    exact readEntries_of_storable [] hstore.ids hstore.each

/-- A store with a project whose number has too many digits is not written. -/
theorem save_eq_error_of_not_short {fields : Fields} (h : contents? file = some fields)
    (session : String) (long : ¬ store.Short) :
    save session store file = .error (.overlong .integer) := by
  have hlong : (Datum.record (fields.put session (entryOf store))).overlong? ≠ none := by
    rwa [Ne, overlong?_put_eq_none_iff (plain_of_contents? h), overlong?_entryOf_eq_none_iff]
  rw [save_of_contents? h, Datum.write_eq_error_of_overlong? hlong]
  rfl

end SavedFile

/-! ## Creating a filter -/

/-- Arguments that ask for a new filter: they are known, its name and its text are texts that are
not empty, and the others suit their kinds. -/
structure AsksFor (ticket : Ticket) (given : StoreArguments) (new : SavedFilter) : Prop where
  known : StoreRequest.canCreate given.fields = true
  name : Fields.get? given.fields "name" = some (.text new.name)
  named : new.name ≠ ""
  filter : Fields.get? given.fields "filter" = some (.text new.filter)
  filled : new.filter ≠ ""
  description : optional given.fields "description" none (nullable text) = .valid new.description
  projectId : optional given.fields "project_id" none (nullable integer) = .valid new.projectId
  isGlobal : optional given.fields "is_global" false truth = .valid new.isGlobal
  id : new.id = ticket.id
  created : new.created = ticket.time
  updated : new.updated = ticket.time

variable {ticket : Ticket} {given : StoreArguments} {new : SavedFilter} {store : Store}

theorem AsksFor.ofFields (h : AsksFor ticket given new) :
    SavedFilter.ofFields ticket given.fields = .valid new := by
  have hkeys : given.fields.all (fun f => StoreRequest.createKeys.contains f.1) = true := by
    have := h.known
    simp only [StoreRequest.canCreate, Bool.and_eq_true] at this
    exact this.1.1
  have hnone {α : Type} {key : String} (hkey : key ∉ StoreRequest.createKeys) (default : α)
      (item : Datum → Checked α) : optional given.fields key default item = .valid default := by
    rw [Schema.optional, Fields.get?_eq_none_of_all hkeys hkey]
  refine SavedFilter.ofFields_eq_valid_iff.2 ⟨?_, ?_, h.description, ?_, h.projectId, h.isGlobal,
    ?_, ?_⟩
  · exact h.id ▸ hnone (by decide) _ _
  · exact required_eq_valid_iff.2 ⟨_, h.name, filledText_eq_valid_iff.2 ⟨rfl, h.named⟩⟩
  · exact required_eq_valid_iff.2 ⟨_, h.filter, filledText_eq_valid_iff.2 ⟨rfl, h.filled⟩⟩
  · exact h.created ▸ hnone (by decide) _ _
  · exact h.updated ▸ hnone (by decide) _ _

theorem AsksFor.storable (h : AsksFor ticket given new) (clock : IsUniversal ticket.time) :
    new.Storable where
  named := h.named
  filled := h.filled
  created := h.created ▸ clock.isWritten
  updated := h.updated ▸ clock.isWritten

/-- The name that a new filter is compared by, if it is compared, is the name that it gets. -/
theorem AsksFor.text?_eq (h : AsksFor ticket given new) {name : String}
    (hname : given.text? "name" = some name) : name = new.name :=
  Datum.text.inj (Option.some.inj ((StoreArguments.get?_of_text? hname).symm.trans h.name))

/-- A filter whose name is free is added. -/
theorem AsksFor.runOn (h : AsksFor ticket given new) (free : ∀ t ∈ store, t.name ≠ new.name) :
    (StoreRequest.create given).runOn store ticket =
      .ok (new.toDatum, some (store.put new)) := by
  have hclash : store.clashes (given.text? "name") none = none := by
    refine Option.filter_eq_none_iff.2 fun name hname => ?_
    rw [h.text?_eq hname, Store.nameTaken_none_eq_false_iff.2 free]
    exact Bool.false_ne_true
  have hcreate : store.create ticket given = .ok (new, store.put new) := by
    rw [Store.create, hclash]
    simp only [h.ofFields]
  simp only [StoreRequest.runOn, hcreate]

/-- A new filter is listed with the others exactly if all of them have an offset in their times of
creation, as it has. -/
theorem listed_put_iff (hids : (store.map SavedFilter.id).Nodup)
    (hnew : new.created.offset.isSome = true) :
    (∃ filters, (store.put new).list? = some filters ∧ new ∈ filters) ↔
      ∀ t ∈ store, t.id ≠ new.id → t.created.offset.isSome = true := by
  have hmem (t : SavedFilter) := Store.mem_put_iff (t := t) (s := new) hids
  have hself : new ∈ store.put new := (hmem new).2 (.inl rfl)
  have hall : ((store.put new).all fun t => t.created.offset.isSome) = true ↔
      ∀ t ∈ store, t.id ≠ new.id → t.created.offset.isSome = true := by
    rw [List.all_eq_true]
    constructor
    · exact fun h t ht hne => h t ((hmem t).2 (.inr ⟨ht, hne⟩))
    · intro h t ht
      rcases (hmem t).1 ht with rfl | ⟨hold, hne⟩
      · exact hnew
      · exact h t hold hne
  have hnaive : ((store.put new).all fun t => !t.created.offset.isSome) = false := by
    rw [List.all_eq_false]
    exact ⟨new, hself, by simp [hnew]⟩
  rw [Store.list?, Store.oldestFirst?, ← hall]
  simp only [hnaive, Bool.or_false]
  constructor
  · rintro ⟨filters, hlist, -⟩
    by_contra hmixed
    rw [if_neg hmixed] at hlist
    cases hlist
  · intro h
    exact ⟨_, if_pos h, List.mem_mergeSort.2 hself⟩

namespace Sessions

/-- A session on a file that opens can add a filter whose name is free, if the file is absent or
holds an object and the number of its project, if it has one, is short enough to be written. The
file then has its filters under its id, next to all other entries, and opens to the same filters
with any later ticket; they can be listed exactly if those from before have an offset in their times
of creation. A longer number is refused, and a file that opens without holding an object takes no
filter. -/
theorem create_of_opens {s : Sessions} {session : String} {file : Option String} {store : Store}
    {ticket : Ticket} {given : StoreArguments} {new : SavedFilter} (shelf : s.shelf = .file file)
    (opens : SavedFile.Opens session file store) (clock : IsUniversal ticket.time)
    (asks : AsksFor ticket given new) (free : ∀ t ∈ store, t.name ≠ new.name) :
    (∀ entries, SavedFile.contents? file = some entries → new.Short → ∃ s',
      (StoreRequest.create given).run s session store ticket = .ok (new.toDatum, s') ∧
      s'.store? session = some (store.put new) ∧
      s'.onDisk? = some (entries.put session (SavedFile.entryOf (store.put new))) ∧
      (∀ later, (s'.reopen.enter session later).map Prod.fst = .ok (store.put new)) ∧
      ((∃ filters, (store.put new).list? = some filters ∧ new ∈ filters) ↔
        ∀ t ∈ store, t.id ≠ new.id → t.created.offset.isSome = true)) ∧
    (∀ entries, SavedFile.contents? file = some entries → ¬ new.Short →
      (StoreRequest.create given).run s session store ticket =
        .error (.file (.overlong .integer))) ∧
    (SavedFile.contents? file = none →
      (StoreRequest.create given).run s session store ticket = .error (.file .notObject)) := by
  have hstore := opens.storable
  -- the store takes the filter in any case; what is left is whether it can be written
  have kept : ∀ s', s.commit session (store.put new) = .ok s' →
      (StoreRequest.create given).run s session store ticket = .ok (new.toDatum, s') := by
    intro s' hcommit
    rw [StoreRequest.run, asks.runOn free]
    simp only [bind, Except.bind, hcommit]
  have lost : ∀ e, s.commit session (store.put new) = .error e →
      (StoreRequest.create given).run s session store ticket = .error (.file e) := by
    intro e hcommit
    rw [StoreRequest.run, asks.runOn free]
    simp only [bind, Except.bind, hcommit]
  have refused : ∀ e, SavedFile.save session (store.put new) file = .error e →
      s.commit session (store.put new) = .error e := by
    intro e hsave
    rw [commit, shelf]
    exact bind_eq_error_iff.2 (.inl hsave)
  refine ⟨fun entries hentries short => ?_, fun entries hentries long => ?_, fun hnone => ?_⟩
  · obtain ⟨text, hsave, hcontents, hload⟩ := SavedFile.exists_save_of_contents? hentries session
      (hstore.put (asks.storable clock)) (opens.short.put short)
    have hcommit : s.commit session (store.put new) =
        .ok ⟨.file (some text), setStore session (store.put new) s.stores⟩ := by
      rw [commit, shelf]
      exact bind_eq_ok_iff.2 ⟨text, hsave, rfl⟩
    refine ⟨⟨.file (some text), setStore session (store.put new) s.stores⟩, kept _ hcommit, ?_,
      hcontents, fun later => ?_, listed_put_iff hstore.ids ?_⟩
    · rw [store?_commit hcommit, if_pos rfl]
    · rw [reopen, enter_closed (hload later)]
      rfl
    · rw [asks.created, clock.1]
      rfl
  · have hlong : ¬ (store.put new).Short := fun h =>
      long (h new ((Store.mem_put_iff hstore.ids).2 (.inl rfl)))
    exact lost _ (refused _ (SavedFile.save_eq_error_of_not_short hentries session hlong))
  · exact lost _ (refused _ (opens.save_eq_error hnone _))

/-- A file with numbers under the id of another session takes a filter and is read again. The filter
that it listed before has no offset in its time of creation, so the two have no order. A list in
place of an object opens, and takes no filter. -/
theorem create_of_opens_of_two_files :
    let source := "\x7b\"t\": [0.1, 1e99, NaN], \"s\": [\x7b\"name\": \"a\", " ++
      "\"filter\": \"done = true\", \"created\": \"2024-05-01T08:00:00\"\x7d]\x7d"
    let given : StoreArguments :=
      [("name", .value (.text "b")), ("filter", .value (.text "done = false"))]
    let create : StoreRequest := .create given
    let ticket : Ticket := ⟨"2", ⟨1, some 0⟩⟩
    let old : SavedFilter :=
      ⟨"1", "a", none, "done = true", none, false, ⟨63850147200000000, none⟩, ⟨0, some 0⟩⟩
    let new : SavedFilter :=
      ⟨"2", "b", none, "done = false", none, false, ticket.time, ticket.time⟩
    SavedFile.load "s" ⟨"1", ⟨0, some 0⟩⟩ (some source) = .ok [old] ∧
      (∃ s', create.run ⟨.file (some source), []⟩ "s" [old] ticket = .ok (new.toDatum, s') ∧
        (∀ later, (s'.reopen.enter "s" later).map Prod.fst = .ok [old, new]) ∧
        ¬ ∃ filters, Store.list? [old, new] = some filters ∧ new ∈ filters) ∧
      create.run ⟨.file (some "[]"), []⟩ "s" [] ticket = .error (.file .notObject) := by
  intro source given create ticket old new
  have clock : IsUniversal ticket.time := ⟨rfl, by decide⟩
  have first : IsUniversal ⟨0, some 0⟩ := ⟨rfl, by decide⟩
  have asks : AsksFor ticket given new :=
    ⟨by decide, rfl, by decide, rfl, by decide, rfl, rfl, rfl, rfl, rfl, rfl⟩
  have object : SavedFile.load "s" ⟨"1", ⟨0, some 0⟩⟩ (some source) = .ok [old] := by
    decide +kernel
  have list : SavedFile.load "s" ⟨"1", ⟨0, some 0⟩⟩ (some "[]") = .ok [] := by decide +kernel
  have added := create_of_opens (s := ⟨.file (some source), []⟩) rfl
    (SavedFile.opens_of_load first object) clock asks (by decide)
  have refused := create_of_opens (s := ⟨.file (some "[]"), []⟩) rfl
    (SavedFile.opens_of_load first list) clock asks (by decide)
  have holds : (SavedFile.contents? (some source)).isSome = true := by decide +kernel
  obtain ⟨entries, hentries⟩ := Option.isSome_iff_exists.1 holds
  have short : new.Short := fun n hn => nomatch hn
  obtain ⟨s', hrun, -, -, hlater, hlisted⟩ := added.1 entries hentries short
  have hnaive : ¬ ∀ t ∈ [old], t.id ≠ new.id → t.created.offset.isSome = true := by decide
  have hlacks : (SavedFile.contents? (some "[]")).isNone = true := by decide +kernel
  exact ⟨object, ⟨s', hrun, hlater, mt hlisted.1 hnaive⟩,
    refused.2.2 (Option.isNone_iff_eq_none.1 hlacks)⟩

end Sessions

end TaskSieve
