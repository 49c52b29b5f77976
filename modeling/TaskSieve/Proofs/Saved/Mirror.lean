import TaskSieve.Proofs.Saved.Event
import TaskSieve.Proofs.Schema.Timestamp

set_option autoImplicit false

/-! # Files that mirror memory

Sessions that keep their stores in a file, which nobody else writes, hold nothing that the file does
not: after every call the file lists what each open session holds, and sessions that are opened anew
on the file hold the same. A call touches its own session and its own entry only. -/

namespace TaskSieve

open Schema
open Schema.Timestamp (IsUniversal IsWritten)

/-! ## Stores that are read back -/

namespace SavedFilter

/-- A filter that a file keeps as it is: it has a name and a text, and its times can be written. -/
structure Storable (s : SavedFilter) : Prop where
  named : s.name ≠ ""
  filled : s.filter ≠ ""
  created : IsWritten s.created
  updated : IsWritten s.updated

/-- A storable filter is read back from what is written for it. -/
theorem ofDatum_toDatum {s : SavedFilter} (h : s.Storable) (ticket : Ticket) :
    ofDatum ticket s.toDatum = .valid s := by
  refine ofFields_eq_valid_iff.2 ⟨?_, ?_, ?_, ?_, ?_, ?_, ?_, ?_⟩
  · exact optional_of_get? rfl rfl
  · exact required_eq_valid_iff.2 ⟨_, rfl, filledText_eq_valid_iff.2 ⟨rfl, h.named⟩⟩
  · exact optional_of_get? rfl (nullable_text_ofOption _)
  · exact required_eq_valid_iff.2 ⟨_, rfl, filledText_eq_valid_iff.2 ⟨rfl, h.filled⟩⟩
  · exact optional_of_get? rfl (nullable_integer_ofOption _)
  · exact optional_of_get? rfl rfl
  · exact optional_of_get? rfl (timestamp_shortText h.created)
  · exact optional_of_get? rfl (timestamp_shortText h.updated)

end SavedFilter

namespace Store

/-- A store that a file keeps as it is: no id occurs twice, and every filter is storable. -/
structure Storable (store : Store) : Prop where
  ids : (store.map SavedFilter.id).Nodup
  each : ∀ s ∈ store, s.Storable

theorem storable_nil : Storable [] := ⟨List.nodup_nil, by simp⟩

variable {store store' : Store} {ticket : Ticket}

theorem Storable.put (h : store.Storable) {s : SavedFilter} (hs : s.Storable) :
    (store.put s).Storable where
  ids := nodup_put h.ids
  each := by
    intro t ht
    rcases (mem_put_iff h.ids).1 ht with rfl | ⟨hold, -⟩
    · exact hs
    · exact h.each t hold

theorem Storable.erase (h : store.Storable) (id : String) : (store.erase id).Storable where
  ids := h.ids.sublist (List.filter_sublist.map _)
  each := fun s hs => h.each s (List.mem_of_mem_filter hs)

theorem storable_of_create (h : store.Storable) (hclock : IsUniversal ticket.time)
    {given : StoreArguments} {s : SavedFilter} (hcan : StoreRequest.canCreate given.fields = true)
    (hcreate : store.create ticket given = .ok (s, store')) : store'.Storable := by
  obtain ⟨-, hread, rfl⟩ := exists_of_create hcreate
  obtain ⟨-, hcreated, hupdated⟩ := stamped_of_canCreate hcan hread
  obtain ⟨-, name, -, filter, -⟩ := SavedFilter.ofFields_eq_valid_iff.1 hread
  obtain ⟨_, -, hname⟩ := required_eq_valid_iff.1 name
  obtain ⟨_, -, hfilter⟩ := required_eq_valid_iff.1 filter
  exact h.put {
    named := (filledText_eq_valid_iff.1 hname).2
    filled := (filledText_eq_valid_iff.1 hfilter).2
    created := hcreated ▸ hclock.isWritten
    updated := hupdated ▸ hclock.isWritten }

theorem storable_of_update (h : store.Storable) (hclock : IsUniversal ticket.time)
    {changes : StoreArguments} {id : String} {new : SavedFilter}
    (hkeys : (changes.map Prod.fst).Nodup)
    (hupdate : store.update ticket.time id changes = .ok (new, store')) : store'.Storable := by
  obtain ⟨old, hfound, hchange, -, rfl⟩ := exists_of_update hkeys hupdate
  have hold := h.each old (mem_of_get? hfound).1
  have hfilter := hchange.filter
  unfold SavedFilter.FieldAfter at hfilter
  exact h.put {
    named := hchange.named
    filled := by
      split at hfilter
      · exact (filledText_eq_valid_iff.1 hfilter).2
      · rw [hfilter]
        exact hold.filled
    created := hchange.created ▸ hold.created
    updated := hchange.updated ▸ hclock.isWritten }

/-- A change leaves a storable store, if the clock shows universal time. -/
theorem Change.storable {request : StoreRequest} (hchange : store.Change ticket request store')
    (h : store.Storable) (hclock : IsUniversal ticket.time) (hform : request.WellFormed) :
    store'.Storable := by
  cases hchange with
  | created create => exact storable_of_create h hclock hform create
  | updated update => exact storable_of_update h hclock hform update
  | deleted found => exact h.erase _
  | cleared => exact storable_nil

end Store

/-! ## Files of storable stores -/

namespace SavedFile

open Sessions (setStore)

/-- The entries of all sessions in a file, if it is absent or holds an object. -/
def contents? : (file : Option String) → Option Fields
  | none => some []
  | some source => (Datum.read source).toOption.bind Datum.fields?

/-- Storable filters with different ids are read as they were written, in their order. -/
theorem readEntries_of_storable {ticket : Ticket} {store : Store} (acc : Store)
    (hids : ((acc ++ store).map SavedFilter.id).Nodup) (h : ∀ s ∈ store, s.Storable) :
    readEntries ticket acc (store.map SavedFilter.toDatum) = .ok (acc ++ store) := by
  induction store generalizing acc with
  | nil => rw [List.append_nil]; rfl
  | cons s rest ih =>
    -- no filter before has this id, so this one goes to the end
    have hnew : s.id ∉ acc.map SavedFilter.id := by
      rw [List.map_append, List.nodup_append] at hids
      exact fun hmem => hids.2.2 _ hmem _ List.mem_cons_self rfl
    rw [List.map_cons, readEntries, SavedFilter.ofDatum_toDatum (h s List.mem_cons_self)]
    dsimp only
    rw [Store.put_of_new hnew, ih _ (by simpa using hids) fun t ht =>
      h t (List.mem_cons_of_mem _ ht), List.append_assoc, List.singleton_append]

/-- Whether a file keeps the stores of sessions: it lists just them, and it is absent only before
the first of them is written. -/
structure Keeps (kept : List (String × Store)) (file : Option String) : Prop where
  file : file = none ∧ kept = [] ∨ file = some (textOf kept)
  keys : (kept.map Prod.fst).Nodup
  short : ∀ k ∈ kept, k.2.Short
  each : ∀ k ∈ kept, k.2.Storable

variable {kept : List (String × Store)} {file : Option String}

theorem keeps_nothing : Keeps [] none := ⟨.inl ⟨rfl, rfl⟩, List.nodup_nil, by simp, by simp⟩

/-- The store of a session that a file keeps; a session without an entry has nothing. -/
def storeIn (kept : List (String × Store)) (session : String) : Store :=
  (kept.lookup session).getD []

theorem Keeps.storable (h : Keeps kept file) (session : String) :
    (storeIn kept session).Storable := by
  unfold storeIn
  cases hlookup : kept.lookup session with
  | none => exact Store.storable_nil
  | some store => exact h.each (session, store) (mem_of_lookup hlookup)

theorem Keeps.contents? (h : Keeps kept file) :
    SavedFile.contents? file = some (fieldsOf kept) := by
  rcases h.file with ⟨rfl, rfl⟩ | rfl
  · rfl
  · rw [SavedFile.contents?, read_textOf h.keys h.short]
    rfl

/-- A session loads the store that the file keeps for it. -/
theorem Keeps.load (h : Keeps kept file) (session : String) (ticket : Ticket) :
    SavedFile.load session ticket file = .ok (storeIn kept session) := by
  rcases h.file with ⟨rfl, rfl⟩ | rfl
  · rfl
  · have hstore := h.storable session
    exact (load_textOf h.keys h.short session ticket).trans
      (readEntries_of_storable [] hstore.ids hstore.each)

/-- Where a storable store is written, the file then keeps it for its session. -/
theorem Keeps.save (h : Keeps kept file) {session : String} {store : Store}
    (hstore : store.Storable) {text : String} (hsave : save session store file = .ok text) :
    Keeps (setStore session store kept) (some text) := by
  obtain ⟨hshort, rfl⟩ : store.Short ∧ textOf (setStore session store kept) = text := by
    rcases h.file with ⟨rfl, rfl⟩ | rfl
    · exact save_none_eq_ok_iff.1 hsave
    · exact (save_textOf_eq_ok_iff h.keys h.short).1 hsave
  exact {
    file := .inr rfl
    keys := nodup_setStore h.keys
    short := (forall_mem_setStore_iff h.short).2 hshort
    each := (forall_mem_setStore_iff h.each).2 hstore }

end SavedFile

/-! ## Sessions on a file -/

namespace Sessions

open SavedFile (storeIn)

/-- What the file of sessions holds, if they have one that can be read. -/
def onDisk? (s : Sessions) : Option Fields :=
  match s.shelf with
  | .memory => none
  | .file file => SavedFile.contents? file

/-- Sessions whose file keeps the stores that are open, and those of sessions that are not. -/
structure Mirrors (s : Sessions) (kept : List (String × Store)) : Prop where
  shelf : ∃ file, s.shelf = .file file ∧ SavedFile.Keeps kept file
  current : ∀ session store, s.store? session = some store → storeIn kept session = store

variable {s : Sessions} {kept : List (String × Store)}

theorem Mirrors.reopen (h : s.Mirrors kept) : s.reopen.Mirrors kept where
  shelf := h.shelf
  current := by
    intro session store hopen
    cases hopen

theorem Mirrors.storable (h : s.Mirrors kept) (session : String) :
    (storeIn kept session).Storable := by
  obtain ⟨file, -, hkeeps⟩ := h.shelf
  exact hkeeps.storable session

theorem Mirrors.onDisk? (h : s.Mirrors kept) :
    s.onDisk? = some (SavedFile.fieldsOf kept) := by
  obtain ⟨file, hfile, hkeeps⟩ := h.shelf
  rw [Sessions.onDisk?, hfile]
  exact hkeeps.contents?

/-- Every session can be opened, with the store that the file keeps for it. -/
theorem Mirrors.exists_enter (h : s.Mirrors kept) (session : String) (ticket : Ticket) :
    ∃ opened, s.enter session ticket = .ok (storeIn kept session, opened) ∧
      opened.Mirrors kept := by
  cases hopen : s.store? session with
  | some store => exact ⟨s, by rw [enter_of_open hopen, h.current session store hopen], h⟩
  | none =>
    obtain ⟨file, hfile, hkeeps⟩ := h.shelf
    have hload : s.load session ticket = .ok (storeIn kept session) := by
      rw [load, hfile]
      exact hkeeps.load session ticket
    refine ⟨⟨s.shelf, setStore session (storeIn kept session) s.stores⟩, ?_, h.shelf, ?_⟩
    · rw [enter, hopen, hload]
      rfl
    · intro other store hother
      have hstore : (if other = session then some (storeIn kept session) else s.store? other) =
          some store := (lookup_setStore ..).symm.trans hother
      split at hstore
      · next heq =>
        cases hstore
        rw [heq]
      · exact h.current other store hstore

theorem storeIn_setStore (session other : String) (store : Store)
    (kept : List (String × Store)) : storeIn (setStore session store kept) other =
      if other = session then store else storeIn kept other := by
  rw [storeIn, lookup_setStore]
  split <;> rfl

/-- Where a storable store is committed, the file then keeps it. -/
theorem Mirrors.commit (h : s.Mirrors kept) {session : String} {store : Store}
    (hstore : store.Storable) {s' : Sessions} (hcommit : s.commit session store = .ok s') :
    s'.Mirrors (setStore session store kept) where
  shelf := by
    obtain ⟨file, hfile, hkeeps⟩ := h.shelf
    rw [Sessions.commit, hfile] at hcommit
    obtain ⟨text, hsave, heq⟩ := bind_eq_ok_iff.1 hcommit
    cases heq
    exact ⟨_, rfl, hkeeps.save hstore hsave⟩
  current := by
    intro other current hother
    rw [store?_commit hcommit] at hother
    rw [storeIn_setStore]
    split at hother
    · next heq =>
      cases hother
      rw [if_pos heq]
    · next hne =>
      rw [if_neg hne]
      exact h.current other current hother

end Sessions

/-! ## Calls -/

namespace StoreCall

open Sessions (setStore)
open SavedFile (storeIn)

/-- The sessions after a call opened its own, with nothing written. -/
def opened (s : Sessions) (c : StoreCall) : Sessions :=
  match s.enter c.session c.ticket with
  | .ok (_, s) => s
  | .error _ => s

variable {s : Sessions} {kept : List (String × Store)} {c : StoreCall}

theorem opened_mirrors (h : s.Mirrors kept) (c : StoreCall) : (c.opened s).Mirrors kept := by
  obtain ⟨s', henter, hmirrors⟩ := h.exists_enter c.session c.ticket
  rwa [opened, henter]

theorem store?_opened_of_ne {session : String} (hne : session ≠ c.session) :
    (c.opened s).store? session = s.store? session := by
  unfold opened
  split
  · next henter => rw [Sessions.store?_enter henter, if_neg hne]
  · rfl

/-- After a call the file keeps what it kept, but for the session of the call. -/
theorem exists_mirrors_run (h : s.Mirrors kept) (hclock : IsUniversal c.ticket.time) :
    ∃ kept', (c.run s).2.Mirrors kept' ∧
      ∀ other, other ≠ c.session → kept'.lookup other = kept.lookup other := by
  obtain ⟨opened, hopen, hmirrors⟩ := h.exists_enter c.session c.ticket
  have houtcome := outcome_run s c
  generalize c.run s = result at houtcome
  cases houtcome with
  | closed enter => exact ⟨kept, h, fun _ _ => rfl⟩
  | malformed enter _ | refused enter _ _ | unwritten enter _ _ _ | looked enter _ _ =>
    rw [hopen] at enter
    cases enter
    exact ⟨kept, hmirrors, fun _ _ => rfl⟩
  | changed enter request? runOn commit =>
    rw [hopen] at enter
    cases enter
    -- only here the file is written: the entry of the session is replaced
    rcases Store.change_of_runOn runOn with ⟨hnone, -⟩ | ⟨new, heq, hchange⟩
    · cases hnone
    cases heq
    have hform := StoreRequest.wellFormed_of_ofCall? c.once request?
    have hnew := hchange.storable (h.storable c.session) hclock hform
    refine ⟨_, hmirrors.commit hnew commit, fun other hne => ?_⟩
    rw [Sessions.lookup_setStore, if_neg hne]

/-- What a look finds does not depend on the ticket. -/
theorem runOn_of_isLook {request : StoreRequest} (hlook : request.isLook = true) (store : Store)
    (ticket ticket' : Ticket) : request.runOn store ticket = request.runOn store ticket' := by
  cases request with
  | list | get _ | findByName _ | ofProject _ => rfl
  | create _ | update _ _ | delete _ | clear => cases hlook

/-- A look is answered from the store that the file keeps. -/
theorem run_of_isLook (h : s.Mirrors kept) {request : StoreRequest}
    (hrequest : c.request? = some request) (hlook : request.isLook = true) :
    (c.run s).1 = (request.runOn (storeIn kept c.session) c.ticket).map Prod.fst := by
  obtain ⟨opened, hopen, -⟩ := h.exists_enter c.session c.ticket
  rw [run, hopen, hrequest]
  dsimp only
  rw [StoreRequest.run]
  cases hon : request.runOn (storeIn kept c.session) c.ticket with
  | error e => rfl
  | ok result =>
    obtain ⟨answer, changed⟩ := result
    rcases Store.change_of_runOn hon with ⟨rfl, -⟩ | ⟨new, -, hchange⟩
    · rfl
    · cases hchange <;> cases hlook

end StoreCall

end TaskSieve
