import TaskSieve.Proofs.Saved.File

set_option autoImplicit false

/-! # What happens to sessions

Calls come in one at a time, each for a session whose store is opened if it is not open. Between
calls the file may be edited from outside, and all sessions may be closed. `Follows` says what a
call did to the store of its session and whether it was accepted; `follows_call` that every call did
so, and `store?_after_of_ne` that nothing else touches an open store. -/

namespace TaskSieve

/-- A call of an operation of a session's store, with arguments by place and by name. No argument is
given by name twice. -/
structure StoreCall where
  session : String
  ticket : Ticket
  operation : String
  places : List StoreArgument
  names : StoreArguments
  once : (names.map Prod.fst).Nodup

/-- What happens to sessions. -/
inductive SessionEvent where
  /-- A call comes in. -/
  | call (c : StoreCall)
  /-- Somebody else writes or removes the file. -/
  | edit (text : Option String)
  /-- All sessions are closed. -/
  | restart

namespace StoreCall

/-- The request that a call makes, if its arguments fit the operation. -/
def request? (c : StoreCall) : Option StoreRequest :=
  StoreRequest.ofCall? c.operation c.places c.names

/-- Whether a call gives no name as bytes. -/
def NamesText (c : StoreCall) : Prop := ∀ request, c.request? = some request → request.NamesText

/-- The ids that a call takes from its ticket. -/
def newIds (c : StoreCall) : List String :=
  match c.request? with
  | some request => request.newIds c.ticket
  | none => []

/-- The answer to a call, and the sessions after it. -/
def run (s : Sessions) (c : StoreCall) : Except RequestError Datum × Sessions :=
  match s.enter c.session c.ticket with
  | .error e => (.error (.file e), s)
  | .ok (store, s) =>
    match c.request? with
    | none => (.error .malformed, s)
    | some request =>
      match request.run s c.session store c.ticket with
      | .error e => (.error e, s)
      | .ok (answer, s) => (.ok answer, s)

/-- What a call did to the store of its session. -/
def Follows (c : StoreCall) (accepted : Bool) (store store' : Store) : Prop :=
  match c.request? with
  | some request => store.Step c.ticket request accepted store'
  | none => accepted = false ∧ store' = store

end StoreCall

/-- The ids that an event takes. -/
def SessionEvent.newIds : SessionEvent → List String
  | .call c => c.newIds
  | _ => []

namespace Sessions

/-- The sessions after an event. -/
def after (s : Sessions) : SessionEvent → Sessions
  | .call c => (c.run s).2
  | .edit text => match s.shelf with
    | .memory => s
    | .file _ => { s with shelf := .file text }
  | .restart => s.reopen

/-- The sessions after events, one after another. -/
def afterAll (s : Sessions) (events : List SessionEvent) : Sessions := events.foldl after s

/-! ## Opening and committing -/

variable {s s' : Sessions} {session : String} {ticket : Ticket} {store : Store}

/-- Entering opens one session and touches no other. -/
theorem store?_enter (h : s.enter session ticket = .ok (store, s')) (other : String) :
    s'.store? other = if other = session then some store else s.store? other := by
  unfold enter at h
  split at h
  · next hopen =>
    cases h
    split
    · next heq => rw [heq, hopen]
    · rfl
  · obtain ⟨loaded, -, hload⟩ := bind_eq_ok_iff.1 h
    cases hload
    exact lookup_setStore ..

theorem enter_of_open (h : s.store? session = some store) :
    s.enter session ticket = .ok (store, s) := by
  rw [enter, h]

theorem eq_of_enter_of_open (hopen : s.store? session = some store) {store' : Store}
    (h : s.enter session ticket = .ok (store', s')) : store' = store ∧ s' = s := by
  rw [enter_of_open hopen] at h
  cases h
  exact ⟨rfl, rfl⟩

/-- The first session that is entered has the store that it loads. -/
theorem enter_closed {file : Option String} (h : SavedFile.load session ticket file = .ok store) :
    enter ⟨.file file, []⟩ session ticket =
      .ok (store, ⟨.file file, [(session, store)]⟩) := by
  have hload : load ⟨.file file, []⟩ session ticket = .ok store := h
  rw [enter, store?, List.lookup_nil, hload]
  rfl

/-- Whether sessions have a file that cannot be written to: what stands in it is no JSON object. -/
def Broken (s : Sessions) : Prop :=
  ∃ text, s.shelf = .file (some text) ∧ ∀ fields, Datum.read text ≠ .ok (.record fields)

/-- A store is written, unless the file is broken or the number of a project is too long. -/
theorem broken_or_not_short_of_commit {e : FileError} (h : s.commit session store = .error e) :
    s.Broken ∨ ¬ store.Short := by
  unfold commit at h
  split at h
  · cases h
  next file hshelf =>
  have hsave : ¬ ∃ text, SavedFile.save session store file = .ok text := by
    rintro ⟨text, hsave⟩
    rw [hsave] at h
    cases h
  rw [SavedFile.exists_save_iff, not_and_or] at hsave
  refine hsave.imp_left fun hbroken => ?_
  push Not at hbroken
  obtain ⟨text, rfl, hread⟩ := hbroken
  exact ⟨text, hshelf, hread⟩

/-- A commit makes a store current, and touches no other. -/
theorem store?_commit (h : s.commit session store = .ok s') (other : String) :
    s'.store? other = if other = session then some store else s.store? other := by
  unfold commit at h
  split at h
  · cases h
    exact lookup_setStore ..
  · obtain ⟨text, -, hsave⟩ := bind_eq_ok_iff.1 h
    cases hsave
    exact lookup_setStore ..

end Sessions

/-! ## Calls -/

namespace StoreCall

/-- The ways in which a call can end. -/
inductive Outcome (s : Sessions) (c : StoreCall) : Except RequestError Datum × Sessions → Prop
  /-- The store could not be opened. -/
  | closed {e : FileError} (enter : s.enter c.session c.ticket = .error e) :
      Outcome s c (.error (.file e), s)
  /-- The arguments did not fit the operation. -/
  | malformed {store : Store} {opened : Sessions}
      (enter : s.enter c.session c.ticket = .ok (store, opened)) (request? : c.request? = none) :
      Outcome s c (.error .malformed, opened)
  /-- The store refused the request. -/
  | refused {store : Store} {opened : Sessions} {request : StoreRequest} {e : RequestError}
      (enter : s.enter c.session c.ticket = .ok (store, opened))
      (request? : c.request? = some request) (runOn : request.runOn store c.ticket = .error e) :
      Outcome s c (.error e, opened)
  /-- The changed store could not be written. -/
  | unwritten {store new : Store} {opened : Sessions} {request : StoreRequest} {answer : Datum}
      {e : FileError} (enter : s.enter c.session c.ticket = .ok (store, opened))
      (request? : c.request? = some request)
      (runOn : request.runOn store c.ticket = .ok (answer, some new))
      (commit : opened.commit c.session new = .error e) : Outcome s c (.error (.file e), opened)
  /-- The call was answered from the store as it is. -/
  | looked {store : Store} {opened : Sessions} {request : StoreRequest} {answer : Datum}
      (enter : s.enter c.session c.ticket = .ok (store, opened))
      (request? : c.request? = some request)
      (runOn : request.runOn store c.ticket = .ok (answer, none)) : Outcome s c (.ok answer, opened)
  /-- The call changed the store, and the change was kept. -/
  | changed {store new : Store} {opened kept : Sessions} {request : StoreRequest} {answer : Datum}
      (enter : s.enter c.session c.ticket = .ok (store, opened))
      (request? : c.request? = some request)
      (runOn : request.runOn store c.ticket = .ok (answer, some new))
      (commit : opened.commit c.session new = .ok kept) : Outcome s c (.ok answer, kept)

theorem outcome_run (s : Sessions) (c : StoreCall) : Outcome s c (c.run s) := by
  unfold run
  split
  · next henter => exact .closed henter
  next store opened henter =>
  split
  · next hrequest => exact .malformed henter hrequest
  next request hrequest =>
  rw [StoreRequest.run]
  cases hon : request.runOn store c.ticket with
  | error e => exact .refused henter hrequest hon
  | ok result =>
    obtain ⟨answer, changed⟩ := result
    cases changed with
    | none => exact .looked henter hrequest hon
    | some new =>
      simp only [bind, Except.bind]
      cases hcommit : opened.commit c.session new with
      | error e => exact .unwritten henter hrequest hon hcommit
      | ok kept => exact .changed henter hrequest hon hcommit

variable {s : Sessions} {c : StoreCall} {store : Store}

/-- What was asked of a sound store is one of its steps, if the id for a new filter is new and no
name is given as bytes. -/
theorem step_of_request (hs : store.Sound) (hnames : c.NamesText)
    (hfresh : ∀ id ∈ c.newIds, id ∉ store.map SavedFilter.id)
    {request : StoreRequest} {answer : Datum} {changed : Option Store}
    (hrequest : c.request? = some request)
    (hon : request.runOn store c.ticket = .ok (answer, changed)) :
    store.Step c.ticket request true (changed.getD store) := by
  rw [newIds, hrequest] at hfresh
  exact Store.step_of_runOn hs (StoreRequest.wellFormed_of_ofCall? c.once hrequest)
    (hnames request hrequest) hfresh hon

/-- Every call to an open, sound store is refused or does one of the steps. -/
theorem follows_run (hopen : s.store? c.session = some store) (hs : store.Sound)
    (hnames : c.NamesText) (hfresh : ∀ id ∈ c.newIds, id ∉ store.map SavedFilter.id) :
    ∃ store', (c.run s).2.store? c.session = some store' ∧
      c.Follows (c.run s).1.isOk store store' := by
  -- the session is open, so entering it finds the store that is there
  have houtcome := outcome_run s c
  generalize c.run s = result at houtcome
  cases houtcome with
  | closed enter =>
    rw [Sessions.enter_of_open hopen] at enter
    cases enter
  | malformed enter request? =>
    obtain ⟨rfl, rfl⟩ := Sessions.eq_of_enter_of_open hopen enter
    refine ⟨_, hopen, ?_⟩
    rw [Follows, request?]
    exact ⟨rfl, rfl⟩
  | refused enter request? _ | unwritten enter request? _ _ =>
    obtain ⟨rfl, rfl⟩ := Sessions.eq_of_enter_of_open hopen enter
    refine ⟨_, hopen, ?_⟩
    rw [Follows, request?]
    exact .refused
  | looked enter request? runOn =>
    obtain ⟨rfl, rfl⟩ := Sessions.eq_of_enter_of_open hopen enter
    refine ⟨_, hopen, ?_⟩
    rw [Follows, request?]
    exact step_of_request hs hnames hfresh request? runOn
  | @changed _ new _ _ _ _ enter request? runOn commit =>
    obtain ⟨rfl, rfl⟩ := Sessions.eq_of_enter_of_open hopen enter
    refine ⟨new, by rw [Sessions.store?_commit commit, if_pos rfl], ?_⟩
    rw [Follows, request?]
    exact step_of_request hs hnames hfresh request? runOn

/-- A call whose arguments fit is refused by the store, or because the file is broken, or since the
number of a project is too long for it. -/
theorem refuses_of_run (hopen : s.store? c.session = some store) {request : StoreRequest}
    (hrequest : c.request? = some request) (hrefused : (c.run s).1.isOk = false) :
    store.Refuses c.ticket request ∨ s.Broken ∨
      ∃ answer new, request.runOn store c.ticket = .ok (answer, some new) ∧ ¬ new.Short := by
  have houtcome := outcome_run s c
  generalize c.run s = result at houtcome hrefused
  cases houtcome with
  | closed enter =>
    rw [Sessions.enter_of_open hopen] at enter
    cases enter
  | malformed _ request? =>
    rw [hrequest] at request?
    cases request?
  | refused enter request? runOn =>
    obtain ⟨rfl, -⟩ := Sessions.eq_of_enter_of_open hopen enter
    rw [hrequest] at request?
    cases request?
    exact .inl (Store.refuses_of_runOn runOn)
  | @unwritten _ new _ _ answer _ enter request? runOn commit =>
    obtain ⟨rfl, rfl⟩ := Sessions.eq_of_enter_of_open hopen enter
    rw [hrequest] at request?
    cases request?
    exact .inr ((Sessions.broken_or_not_short_of_commit commit).imp_right fun hlong =>
      ⟨answer, new, runOn, hlong⟩)
  | looked _ _ _ | changed _ _ _ _ => cases hrefused

/-- A call touches the store of no other session. -/
theorem store?_run_of_ne {session : String} (hne : session ≠ c.session) :
    (c.run s).2.store? session = s.store? session := by
  have houtcome := outcome_run s c
  generalize c.run s = result at houtcome
  cases houtcome with
  | closed enter => rfl
  | malformed enter _ | refused enter _ _ | unwritten enter _ _ _ | looked enter _ _ =>
    rw [Sessions.store?_enter enter, if_neg hne]
  | changed enter request? runOn commit =>
    rw [Sessions.store?_commit commit, if_neg hne, Sessions.store?_enter enter, if_neg hne]

end StoreCall

/-! ## Events -/

namespace Sessions

variable {s : Sessions} {session : String} {store : Store}

/-- Only calls of its own session touch an open store, as long as sessions are not closed. -/
theorem store?_after_of_ne {e : SessionEvent} (hopen : s.store? session = some store)
    (hrestart : e ≠ .restart) (hne : ∀ c, e = .call c → session ≠ c.session) :
    (s.after e).store? session = some store := by
  cases e with
  | call c => exact (StoreCall.store?_run_of_ne (hne c rfl)).trans hopen
  | edit text =>
    unfold after
    dsimp only
    split <;> exact hopen
  | restart => exact absurd rfl hrestart

/-! ## Sessions on a file of their own -/

/-- Sessions whose open stores are sound and whose file, if they have one, holds sound stores. All
ids in them were given out before. -/
structure AllSound (known : List String) (s : Sessions) : Prop where
  sound : ∀ session store, s.store? session = some store → store.Sound
  within : ∀ session store, s.store? session = some store → store.Within known
  shelf : ∀ file, s.shelf = .file file → SavedFile.HoldsSound known file

variable {known : List String}

theorem allSound_of_closed (hclosed : s.stores = [])
    (hshelf : ∀ file, s.shelf = .file file → SavedFile.HoldsSound known file) :
    s.AllSound known where
  sound := fun session store hopen => by
    rw [store?, hclosed] at hopen
    cases hopen
  within := fun session store hopen => by
    rw [store?, hclosed] at hopen
    cases hopen
  shelf := hshelf

theorem AllSound.mono (h : s.AllSound known) (more : List String) : s.AllSound (known ++ more) where
  sound := h.sound
  within := fun session store hopen t ht =>
    List.mem_append_left more (h.within session store hopen t ht)
  shelf := fun file hfile => (h.shelf file hfile).mono

/-- A sound store of one session beside those of the others. -/
theorem AllSound.set (h : s.AllSound known) {s' : Sessions} (hs : store.Sound)
    (hknown : store.Within known)
    (hstores : ∀ other, s'.store? other = if other = session then some store else s.store? other)
    (hshelf : ∀ file, s'.shelf = .file file → SavedFile.HoldsSound known file) :
    s'.AllSound known where
  sound := by
    intro other current hopen
    rw [hstores] at hopen
    split at hopen
    · cases hopen
      exact hs
    · exact h.sound other current hopen
  within := by
    intro other current hopen
    rw [hstores] at hopen
    split at hopen
    · cases hopen
      exact hknown
    · exact h.within other current hopen
  shelf := hshelf

/-- A session that is opened has a sound store. -/
theorem AllSound.enter (h : s.AllSound known) {ticket : Ticket} {opened : Sessions}
    (henter : s.enter session ticket = .ok (store, opened)) :
    store.Sound ∧ store.Within known ∧ opened.AllSound known := by
  have hstores := store?_enter henter
  unfold Sessions.enter at henter
  split at henter
  · next hopen =>
    cases henter
    exact ⟨h.sound _ _ hopen, h.within _ _ hopen, h⟩
  · obtain ⟨loaded, hload, heq⟩ := bind_eq_ok_iff.1 henter
    cases heq
    obtain ⟨hs, hknown⟩ : store.Sound ∧ store.Within known := by
      unfold load at hload
      split at hload
      · cases hload
        exact ⟨Store.sound_nil, Store.within_nil known⟩
      · next hshelf => exact (h.shelf _ hshelf).load hload
    exact ⟨hs, hknown, h.set hs hknown hstores h.shelf⟩

theorem AllSound.commit (h : s.AllSound known) {s' : Sessions} (hs : store.Sound)
    (hknown : store.Within known) (hcommit : s.commit session store = .ok s') :
    s'.AllSound known := by
  refine h.set hs hknown (store?_commit hcommit) ?_
  unfold Sessions.commit at hcommit
  split at hcommit
  · next hshelf =>
    cases hcommit
    exact h.shelf
  · next hshelf =>
    obtain ⟨text, hsave, heq⟩ := bind_eq_ok_iff.1 hcommit
    cases heq
    intro file hfile
    cases hfile
    exact (h.shelf _ hshelf).save hs hknown hsave

/-- Calls and restarts keep all stores sound, if the ids for new filters are new and no name is
given as bytes. -/
theorem AllSound.after (h : s.AllSound known) {e : SessionEvent} (hedit : ∀ text, e ≠ .edit text)
    (hnames : ∀ c, e = .call c → c.NamesText)
    (hfresh : ∀ id ∈ e.newIds, id ∉ known) : (s.after e).AllSound (known ++ e.newIds) := by
  cases e with
  | edit text => exact absurd rfl (hedit text)
  | restart =>
    exact allSound_of_closed rfl (h.mono _).shelf
  | call c =>
    rw [Sessions.after]
    have houtcome := StoreCall.outcome_run s c
    generalize c.run s = result at houtcome
    cases houtcome with
    | closed enter => exact h.mono _
    | malformed enter _ | refused enter _ _ | unwritten enter _ _ _ | looked enter _ _ =>
      exact (h.enter enter).2.2.mono _
    | @changed store new opened kept request answer enter request? runOn commit =>
      obtain ⟨hs, hknown, hopened⟩ := h.enter enter
      have hnew : ∀ id ∈ c.newIds, id ∉ store.map SavedFilter.id := by
        intro id hid hmem
        obtain ⟨s, hs, rfl⟩ := List.mem_map.1 hmem
        exact hfresh _ hid (hknown s hs)
      have hstep := StoreCall.step_of_request hs (hnames c rfl) hnew request? runOn
      have hids : c.newIds = request.newIds c.ticket := by rw [StoreCall.newIds, request?]
      refine (hopened.mono _).commit (hstep.sound hs (hids ▸ hnew)) ?_ commit
      rw [SessionEvent.newIds, hids]
      exact hstep.within hknown

end Sessions

end TaskSieve
