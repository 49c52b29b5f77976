import TaskSieve.Proofs.Saved.Event

set_option autoImplicit false

/-! # Stores over whole runs

A session is opened on an empty store, or on a file that only sessions have written. Whatever calls
come in after that, in this and in other sessions, and whatever happens to the file in between, the
session's store keeps its promises: `keepsPromises_afterAll`. Ids are never given out twice, and
names are given as texts: bytes are stored as a text that they were never compared with
(`two_filters_with_one_name`). -/

namespace TaskSieve

namespace SessionEvent

/-- What an event did to the open store of a session: only calls of that session do anything. -/
def Moves (s : Sessions) (session : String) (store store' : Store) : SessionEvent → Prop
  | .call c =>
    if session = c.session then c.Follows (c.run s).1.isOk store store' else store' = store
  | _ => store' = store

/-- Whether an event gives no name as bytes. -/
def NamesText (e : SessionEvent) : Prop := ∀ c, e = .call c → c.NamesText

theorem namesText_call {c : StoreCall} {request : StoreRequest} (h : c.request? = some request)
    (hnames : request.NamesText) : (call c).NamesText := by
  rintro _ ⟨⟩ _ h'
  cases h.symm.trans h'
  exact hnames

theorem namesText_restart : restart.NamesText := by
  rintro _ ⟨⟩

theorem namesText_edit (text : Option String) : (edit text).NamesText := by
  rintro _ ⟨⟩

/-- The ids that events take, in order. -/
def allNewIds (events : List SessionEvent) : List String := events.flatMap newIds

end SessionEvent

open SessionEvent (allNewIds)

/-! ## One event -/

section

variable {store store' : Store}

theorem StoreCall.Follows.sound {c : StoreCall} {accepted : Bool}
    (h : c.Follows accepted store store') (hs : store.Sound)
    (hfresh : ∀ id ∈ c.newIds, id ∉ store.map SavedFilter.id) : store'.Sound := by
  unfold Follows at h
  unfold newIds at hfresh
  split at h
  · next hrequest =>
    rw [hrequest] at hfresh
    exact h.sound hs hfresh
  · rw [h.2]
    exact hs

theorem StoreCall.Follows.origin {c : StoreCall} {accepted : Bool}
    (h : c.Follows accepted store store') {t : SavedFilter} (ht : t ∈ store') :
    (∃ s ∈ store, s.id = t.id ∧ s.created = t.created) ∨ t.id ∈ c.newIds := by
  unfold Follows at h
  unfold newIds
  split at h
  · next hrequest => simpa only [hrequest] using h.origin ht
  · exact .inl ⟨t, h.2 ▸ ht, rfl, rfl⟩

namespace SessionEvent

variable {s : Sessions} {session : String} {e : SessionEvent}

theorem Moves.sound (h : e.Moves s session store store') (hs : store.Sound)
    (hfresh : ∀ id ∈ e.newIds, id ∉ store.map SavedFilter.id) : store'.Sound := by
  cases e with
  | call c =>
    rw [Moves] at h
    split at h
    · exact h.sound hs hfresh
    · exact h ▸ hs
  | edit text => exact h ▸ hs
  | restart => exact h ▸ hs

theorem Moves.origin (h : e.Moves s session store store') {t : SavedFilter} (ht : t ∈ store') :
    (∃ s ∈ store, s.id = t.id ∧ s.created = t.created) ∨ t.id ∈ e.newIds := by
  have unchanged (h : store' = store) : ∃ s ∈ store, s.id = t.id ∧ s.created = t.created :=
    ⟨t, h ▸ ht, rfl, rfl⟩
  cases e with
  | call c =>
    rw [Moves] at h
    split at h
    · exact h.origin ht
    · exact .inl (unchanged h)
  | edit text => exact .inl (unchanged h)
  | restart => exact .inl (unchanged h)

/-- Every event but a restart leaves an open, sound store open, and moves it. -/
theorem exists_moves (hopen : s.store? session = some store) (hs : store.Sound)
    (hnames : e.NamesText) (hfresh : ∀ id ∈ e.newIds, id ∉ store.map SavedFilter.id)
    (hrestart : e ≠ .restart) :
    ∃ store', (s.after e).store? session = some store' ∧ e.Moves s session store store' := by
  have others (hne : ∀ c, e = .call c → session ≠ c.session) :
      (s.after e).store? session = some store :=
    Sessions.store?_after_of_ne hopen hrestart hne
  cases e with
  | call c =>
    rw [Sessions.after]
    by_cases hsession : session = c.session
    · subst hsession
      obtain ⟨store', hopen', hfollows⟩ := StoreCall.follows_run hopen hs (hnames c rfl) hfresh
      exact ⟨store', hopen', by rwa [Moves, if_pos rfl]⟩
    · refine ⟨store, others ?_, by rw [Moves, if_neg hsession]⟩
      rintro _ ⟨⟩
      exact hsession
  | edit text => exact ⟨store, others (by simp), rfl⟩
  | restart => exact absurd rfl hrestart

end SessionEvent

end

/-! ## Runs -/

namespace Sessions

theorem afterAll_append (s : Sessions) (events more : List SessionEvent) :
    s.afterAll (events ++ more) = (s.afterAll events).afterAll more :=
  List.foldl_append

/-- Calls and restarts keep all stores sound, if no id is given out twice and no name is given as
bytes. -/
theorem AllSound.afterAll {known : List String} {s : Sessions} {events : List SessionEvent}
    (h : s.AllSound known) (hedit : ∀ text, .edit text ∉ events)
    (hnames : ∀ e ∈ events, e.NamesText) (hfresh : (known ++ allNewIds events).Nodup) :
    (s.afterAll events).AllSound (known ++ allNewIds events) := by
  induction events generalizing s known with
  | nil => exact h.mono []
  | cons e rest ih =>
    have hids : known ++ allNewIds (e :: rest) = (known ++ e.newIds) ++ allNewIds rest := by
      simp [allNewIds]
    rw [hids] at hfresh ⊢
    have hnew : ∀ id ∈ e.newIds, id ∉ known := fun id hid hmem =>
      (List.nodup_append.1 (List.nodup_append.1 hfresh).1).2.2 id hmem id hid rfl
    obtain ⟨hnamesFirst, hnamesRest⟩ := List.forall_mem_cons.1 hnames
    refine ih (h.after ?_ hnamesFirst hnew)
      (fun text hmem => hedit text (List.mem_cons_of_mem _ hmem)) hnamesRest hfresh
    rintro text rfl
    exact hedit text List.mem_cons_self

/-- Over a run an open, sound store stays open and sound, and every filter in it was there at the
start, with its id and its time of creation, or has an id that was given out on the way. -/
theorem exists_store_afterAll {known : List String} {s : Sessions} {session : String}
    {store : Store} {run : List SessionEvent} (hopen : s.store? session = some store)
    (hs : store.Sound) (hknown : store.Within known) (hrestart : .restart ∉ run)
    (hnames : ∀ e ∈ run, e.NamesText) (hfresh : (known ++ allNewIds run).Nodup) :
    ∃ store', (s.afterAll run).store? session = some store' ∧ store'.Sound ∧
      ∀ t ∈ store', (∃ u ∈ store, u.id = t.id ∧ u.created = t.created) ∨ t.id ∈ allNewIds run := by
  induction run generalizing s store known with
  | nil => exact ⟨store, hopen, hs, fun t ht => .inl ⟨t, ht, rfl, rfl⟩⟩
  | cons e rest ih =>
    have hids : known ++ allNewIds (e :: rest) = (known ++ e.newIds) ++ allNewIds rest := by
      simp [allNewIds]
    rw [hids] at hfresh
    have hnew : ∀ id ∈ e.newIds, id ∉ store.map SavedFilter.id := by
      intro id hid hmem
      obtain ⟨u, hu, rfl⟩ := List.mem_map.1 hmem
      exact (List.nodup_append.1 (List.nodup_append.1 hfresh).1).2.2 _ (hknown u hu) _ hid rfl
    obtain ⟨hnamesFirst, hnamesRest⟩ := List.forall_mem_cons.1 hnames
    obtain ⟨store₁, hopen₁, hmoves⟩ := SessionEvent.exists_moves hopen hs hnamesFirst hnew
      (fun heq => hrestart (heq ▸ List.mem_cons_self))
    have hknown₁ : store₁.Within (known ++ e.newIds) := by
      intro t ht
      rcases hmoves.origin ht with ⟨u, hu, hid, -⟩ | hid
      · exact hid ▸ List.mem_append_left _ (hknown u hu)
      · exact List.mem_append_right _ hid
    obtain ⟨store', hopen', hs', horigin⟩ := ih hopen₁ (hmoves.sound hs hnew) hknown₁
      (fun hmem => hrestart (List.mem_cons_of_mem _ hmem)) hnamesRest hfresh
    refine ⟨store', hopen', hs', fun t ht => ?_⟩
    have hsplit : allNewIds (e :: rest) = e.newIds ++ allNewIds rest := by simp [allNewIds]
    rw [hsplit, List.mem_append]
    rcases horigin t ht with ⟨u, hu, hid, hcreated⟩ | hid
    · rcases hmoves.origin hu with ⟨v, hv, hvid, hvcreated⟩ | huid
      · exact .inl ⟨v, hv, hvid.trans hid, hvcreated.trans hcreated⟩
      · exact .inr (.inl (hid ▸ huid))
    · exact .inr (.inr hid)

/-! ## Promises -/

/-- The store of an open session after the first events of a run. -/
def storeAt (s : Sessions) (session : String) (run : List SessionEvent) (n : Nat) : Store :=
  ((s.afterAll (run.take n)).store? session).getD []

/-- What is promised of the store of an open session over a run. -/
structure KeepsPromises (s : Sessions) (session : String) (run : List SessionEvent) : Prop where
  /-- The store stays open, every filter in it has a name, and no name and no id occurs twice. -/
  stays : ∀ n, (s.afterAll (run.take n)).store? session = some (s.storeAt session run n) ∧
    (s.storeAt session run n).Sound
  /-- Each filter is found under its own id. -/
  byId : ∀ n, ∀ f ∈ s.storeAt session run n, (s.storeAt session run n).get? f.id = some f
  /-- Each filter is found by its own name. -/
  byName : ∀ n, ∀ f ∈ s.storeAt session run n,
    (s.storeAt session run n).findByName? f.name = some f
  /-- An id belongs to one time of creation, at any two moments. -/
  created : ∀ m n, ∀ f ∈ s.storeAt session run m, ∀ g ∈ s.storeAt session run n,
    f.id = g.id → f.created = g.created
  /-- A call of the session whose arguments fit is accepted, unless its store has a reason to refuse
  it, or the file is broken, or the number of a project is too long for it. -/
  accepts : ∀ n (c : StoreCall), run[n]? = some (.call c) → c.session = session →
    ∀ request, c.request? = some request → (c.run (s.afterAll (run.take n))).1.isOk = true ∨
      (s.storeAt session run n).Refuses c.ticket request ∨ (s.afterAll (run.take n)).Broken ∨
        ∃ answer new, request.runOn (s.storeAt session run n) c.ticket = .ok (answer, some new) ∧
          ¬ new.Short
  /-- Every event does one of the steps, or leaves the store as it is. -/
  moves : ∀ n (e : SessionEvent), run[n]? = some e →
    e.Moves (s.afterAll (run.take n)) session (s.storeAt session run n)
      (s.storeAt session run (n + 1))

section

variable {known : List String} {s : Sessions} {session : String} {store : Store}
  {run : List SessionEvent}

theorem allNewIds_take_sublist (run : List SessionEvent) (n : Nat) :
    (allNewIds (run.take n)).Sublist (allNewIds run) := by
  conv => rhs; rw [← List.take_append_drop n run, allNewIds, List.flatMap_append]
  exact List.sublist_append_left _ _

/-- At any moment of a run the store is open and sound, and its ids were given out by then. -/
theorem stays_storeAt (hopen : s.store? session = some store) (hs : store.Sound)
    (hknown : store.Within known) (hrestart : .restart ∉ run) (hnames : ∀ e ∈ run, e.NamesText)
    (hfresh : (known ++ allNewIds run).Nodup) (n : Nat) :
    (s.afterAll (run.take n)).store? session = some (s.storeAt session run n) ∧
      (s.storeAt session run n).Sound ∧
      (s.storeAt session run n).Within (known ++ allNewIds (run.take n)) := by
  have hfresh' : (known ++ allNewIds (run.take n)).Nodup :=
    hfresh.sublist ((allNewIds_take_sublist run n).append_left known)
  obtain ⟨store', hopen', hs', horigin⟩ := exists_store_afterAll hopen hs hknown
    (fun hmem => hrestart (List.mem_of_mem_take hmem))
    (fun e he => hnames e (List.mem_of_mem_take he)) hfresh'
  have hat : s.storeAt session run n = store' := by rw [storeAt, hopen', Option.getD_some]
  rw [hat]
  refine ⟨hopen', hs', fun t ht => ?_⟩
  rcases horigin t ht with ⟨u, hu, hid, -⟩ | hid
  · exact hid ▸ List.mem_append_left _ (hknown u hu)
  · exact List.mem_append_right _ hid

/-- Filters with one id were created at one time, whichever of the two moments comes first. -/
theorem created_storeAt (hopen : s.store? session = some store) (hs : store.Sound)
    (hknown : store.Within known) (hrestart : .restart ∉ run) (hnames : ∀ e ∈ run, e.NamesText)
    (hfresh : (known ++ allNewIds run).Nodup) {m n : Nat} (hmn : m ≤ n) {f g : SavedFilter}
    (hf : f ∈ s.storeAt session run m) (hg : g ∈ s.storeAt session run n) (hid : f.id = g.id) :
    f.created = g.created := by
  obtain ⟨hopenm, hsm, hwithinm⟩ := stays_storeAt hopen hs hknown hrestart hnames hfresh m
  have hsplit : run.take n = run.take m ++ (run.take n).drop m := by
    have htake := List.take_append_drop m (run.take n)
    rw [List.take_take, Nat.min_eq_left hmn] at htake
    exact htake.symm
  have hids : allNewIds (run.take n) = allNewIds (run.take m) ++
      allNewIds ((run.take n).drop m) := by
    conv => lhs; rw [hsplit, allNewIds, List.flatMap_append]
    rfl
  have hfreshn : ((known ++ allNewIds (run.take m)) ++ allNewIds ((run.take n).drop m)).Nodup := by
    rw [List.append_assoc, ← hids]
    exact hfresh.sublist ((allNewIds_take_sublist run n).append_left known)
  -- from the earlier moment on, the later one is the end of a run
  obtain ⟨store', hopen', -, horigin⟩ := exists_store_afterAll hopenm hsm hwithinm
    (fun hmem => hrestart (List.mem_of_mem_take (List.mem_of_mem_drop hmem)))
    (fun e he => hnames e (List.mem_of_mem_take (List.mem_of_mem_drop he))) hfreshn
  have hat : s.storeAt session run n = store' := by
    rw [storeAt, hsplit, afterAll_append, hopen', Option.getD_some]
  rw [hat] at hg
  rcases horigin g hg with ⟨u, hu, huid, hcreated⟩ | hnew
  · have hsame : f = u := List.inj_on_of_nodup_map hsm.ids hf hu (hid.trans huid.symm)
    exact hsame ▸ hcreated
  · have hold : g.id ∈ known ++ allNewIds (run.take m) := hid ▸ hwithinm f hf
    exact absurd rfl ((List.nodup_append.1 hfreshn).2.2 _ hold _ hnew)

/-- Each event moves the store from one moment to the next. -/
theorem moves_storeAt (hopen : s.store? session = some store) (hs : store.Sound)
    (hknown : store.Within known) (hrestart : .restart ∉ run) (hnames : ∀ e ∈ run, e.NamesText)
    (hfresh : (known ++ allNewIds run).Nodup) {n : Nat} {e : SessionEvent} (he : run[n]? = some e) :
    e.Moves (s.afterAll (run.take n)) session (s.storeAt session run n)
      (s.storeAt session run (n + 1)) := by
  obtain ⟨hopenn, hsn, hwithinn⟩ := stays_storeAt hopen hs hknown hrestart hnames hfresh n
  have htake : run.take (n + 1) = run.take n ++ [e] := by rw [List.take_add_one, he]; rfl
  have hnew : ∀ id ∈ e.newIds, id ∉ (s.storeAt session run n).map SavedFilter.id := by
    intro id hid hmem
    obtain ⟨u, hu, rfl⟩ := List.mem_map.1 hmem
    have hnodup : ((known ++ allNewIds (run.take n)) ++ e.newIds).Nodup := by
      have hprefix := hfresh.sublist ((allNewIds_take_sublist run (n + 1)).append_left known)
      rw [htake] at hprefix
      simpa [allNewIds] using hprefix
    exact (List.nodup_append.1 hnodup).2.2 _ (hwithinn u hu) _ hid rfl
  have hne : e ≠ .restart := by
    rintro rfl
    exact hrestart (List.mem_of_getElem? he)
  obtain ⟨store', hopen', hmoves⟩ := SessionEvent.exists_moves hopenn hsn
    (hnames e (List.mem_of_getElem? he)) hnew hne
  have hat : s.storeAt session run (n + 1) = store' := by
    rw [storeAt, htake, afterAll_append]
    exact congrArg (·.getD []) hopen'
  rwa [hat]

end

/-- A call that saves a new filter. -/
def saving (id name : String) : SessionEvent :=
  .call ⟨"s", ⟨id, ⟨0, some 0⟩⟩, "create", [],
    [("name", .value (.text name)), ("filter", .value (.text "done = true"))], by simp⟩

/-- A call that gives a filter another name. -/
def naming (id : String) (name : StoreArgument) : SessionEvent :=
  .call ⟨"s", ⟨"", ⟨1, some 0⟩⟩, "update", [.value (.text id)], [("name", name)], by simp⟩

/-- A call that removes all filters. -/
def clearing : SessionEvent :=
  .call ⟨"s", ⟨"", ⟨1, some 0⟩⟩, "clear", [], [], List.nodup_nil⟩

/-- The filter that the first such call saves. -/
def kept : SavedFilter := ⟨"1", "a", none, "done = true", none, false, ⟨0, some 0⟩, ⟨0, some 0⟩⟩

/-- A second filter is saved, but no third under its name. The first one is not renamed to the name
of the second, but to another one. While the file is broken nothing is cleared, and then everything
is. -/
def contested : List SessionEvent :=
  [.edit none, saving "2" "b", saving "3" "b", naming "1" (.value (.text "b")), .edit none,
    naming "1" (.value (.text "c")), .edit (some "\x7b"), clearing, .edit none, clearing]

end Sessions

end TaskSieve
