import TaskSieve.Proofs.Saved.Vetting

set_option autoImplicit false

/-! # Calls step by step

What a call does in the order in which it does it: it opens its session, looks at the current store,
reads the file, writes the file, and makes a store current. Any of these steps can stop the call,
and what was done before stays done. On a disk that works the steps of a call give its answer and
its sessions (`FiltersCall.outcome_steps`, `StoreCall.outcome_steps`,
`StoreCall.outcome_attempt`). -/

namespace TaskSieve

open Schema

/-- Steps that act on sessions. An error stops them and undoes nothing. -/
abbrev Steps (ε : Type) := ExceptT ε (StateM Sessions)

/-- How steps end, and the sessions that they leave. -/
def Steps.outcome {ε α : Type} (x : Steps ε α) (s : Sessions) : Except ε α × Sessions :=
  (ExceptT.run x).run s

namespace Steps

variable {ε ε' α β : Type} {s : Sessions}

/-- A step that only computes. -/
def lift (x : Except ε α) : Steps ε α := ExceptT.mk (pure x)

/-- The current store of a session. -/
def current (session : String) : Steps ε Store := do
  return ((← get).store? session).getD []

@[simp] theorem outcome_pure (a : α) : outcome (pure a : Steps ε α) s = (.ok a, s) := rfl

@[simp] theorem outcome_throw (e : ε) : outcome (throw e : Steps ε α) s = (.error e, s) := rfl

@[simp] theorem outcome_lift (x : Except ε α) : (lift x).outcome s = (x, s) := rfl

@[simp] theorem outcome_current (session : String) :
    (current session : Steps ε Store).outcome s = (.ok ((s.store? session).getD []), s) := rfl

@[simp] theorem outcome_get : outcome (get : Steps ε Sessions) s = (.ok s, s) := rfl

@[simp] theorem outcome_modify (f : Sessions → Sessions) :
    outcome (modify f : Steps ε PUnit) s = (.ok (), f s) := rfl

@[simp] theorem outcome_adapt (x : Steps ε α) (f : ε → ε') :
    outcome (ExceptT.adapt f x) s = ((x.outcome s).1.mapError f, (x.outcome s).2) := rfl

theorem outcome_bind_of_ok {x : Steps ε α} {a : α} {s' : Sessions} (h : x.outcome s = (.ok a, s'))
    (f : α → Steps ε β) : outcome (x >>= f) s = (f a).outcome s' := by
  simp only [outcome, ExceptT.run_bind, StateT.run_bind]
  simp only [outcome] at h
  rw [h]
  rfl

theorem outcome_bind_of_error {x : Steps ε α} {e : ε} {s' : Sessions}
    (h : x.outcome s = (.error e, s')) (f : α → Steps ε β) :
    outcome (x >>= f) s = (.error e, s') := by
  simp only [outcome, ExceptT.run_bind, StateT.run_bind]
  simp only [outcome] at h
  rw [h]
  rfl

theorem outcome_bind (x : Steps ε α) (f : α → Steps ε β) :
    outcome (x >>= f) s = match x.outcome s with
      | (.ok a, s') => (f a).outcome s'
      | (.error e, s') => (.error e, s') := by
  cases h : x.outcome s with
  | mk result s' =>
    cases result with
    | ok a => rw [outcome_bind_of_ok h]
    | error e => rw [outcome_bind_of_error h]

end Steps

/-! ## The disk -/

/-- What a disk does during a call: whether it gives a file, and whether it takes one. -/
structure Disk where
  readable : Bool
  writable : Bool

/-- A disk that does what it is asked. -/
def Disk.working : Disk := ⟨true, true⟩

/-- Why steps on a store stop: the request is refused, the disk fails, or a filter that was just put
into the store is not there. -/
inductive Stop where
  | refused (e : RequestError)
  | disk
  | lost

/-- Why the change of the filter with an id stops. -/
def Stop.ofChange (id : StoreArgument) : StoreError → Stop
  | .notFound _ => .refused (StoreRequest.missing id)
  | e => .refused (.store e)

namespace Steps

open Sessions (setStore)

variable (disk : Disk) (session : String)

/-- Reads the file, if it exists. -/
def readFile : (file : Option String) → Steps Stop (Option String)
  | none => pure none
  | some text => if disk.readable then pure (some text) else throw .disk

/-- Writes the file, as a whole or not at all. -/
def writeFile (text : String) : Steps Stop Unit :=
  if disk.writable then modify fun s => { s with shelf := .file (some text) } else throw .disk

/-- Opens the store of a session, if it is not open. -/
def enter (ticket : Ticket) : Steps Stop Unit := do
  let s ← get
  if (s.store? session).isNone then
    match s.shelf with
    | .memory => modify fun s => { s with stores := setStore session [] s.stores }
    | .file file =>
      let found ← readFile disk file
      let store ← lift ((SavedFile.load session ticket found).mapError fun e => .refused (.file e))
      modify fun s => { s with stores := setStore session store s.stores }

/-- Writes a store to where stores are kept. -/
def persist (store : Store) : Steps Stop Unit := do
  match (← get).shelf with
  | .memory => return
  | .file file =>
    let found ← readFile disk file
    let text ← lift ((SavedFile.save session store found).mapError fun e => .refused (.file e))
    writeFile disk text

/-- Writes a store, and then makes it current. -/
def commit (store : Store) : Steps Stop Unit := do
  persist disk session store
  modify fun s => { s with stores := setStore session store s.stores }

/-- Goes on with a changed store, if there is one. -/
def settle {α : Type} (x : Except Stop (α × Store)) : Steps Stop α := do
  let (a, store) ← lift x
  commit disk session store
  return a

/-! ## Operations on a store -/

/-- Adds a filter. -/
def create (ticket : Ticket) (given : StoreArguments) : Steps Stop SavedFilter := do
  let store ← current session
  settle disk session ((store.create ticket given).mapError fun e => .refused (.store e))

/-- Changes a filter, and answers with what the store then has under its id. -/
def update (time : Calendar.Stamp) (id : StoreArgument) (changes : StoreArguments) :
    Steps Stop SavedFilter := do
  let store ← current session
  let (store, key) := StoreRequest.reach store id
  let _ ← settle disk session ((store.update time key changes).mapError (.ofChange id))
  match (← current session).get? key with
  | some s => return s
  | none => throw .lost

/-- Removes a filter. -/
def delete (id : StoreArgument) : Steps Stop Unit := do
  let store ← current session
  let (store, key) := StoreRequest.reach store id
  settle disk session (((store.delete key).mapError fun _ => .refused (StoreRequest.missing id)).map
    fun store => ((), store))

/-- Removes all filters. -/
def clear : Steps Stop Unit := commit disk session []

end Steps

open Steps

/-- The steps of a request. -/
def StoreRequest.steps (disk : Disk) (session : String) (ticket : Ticket) (request : StoreRequest) :
    Steps Stop Datum := do
  match request with
  | create given => return (← Steps.create disk session ticket given).toDatum
  | update id changes => return (← Steps.update disk session ticket.time id changes).toDatum
  | delete id =>
    Steps.delete disk session id
    return .null
  | clear =>
    Steps.clear disk session
    return .null
  | list | get _ | findByName _ | ofProject _ =>
    let store ← current session
    let (answer, _) ← lift ((request.runOn store ticket).mapError .refused)
    return answer

/-- The steps of a call of a store that is open. -/
def StoreCall.steps (disk : Disk) (c : StoreCall) : Steps Stop Datum :=
  match c.request? with
  | some request => request.steps disk c.session c.ticket
  | none => throw (.refused .malformed)

/-- The steps of a call, from the opening of its session on. -/
def StoreCall.attempt (disk : Disk) (c : StoreCall) : Steps Stop Datum := do
  Steps.enter disk c.session c.ticket
  c.steps disk

/-! ## Actions -/

namespace Action

/-- What an action answers if its steps on the store stop. -/
def stopped (action : Action) : Stop → ActionError
  | .refused (.store e) => .store e
  | .refused (.file e) => action.writeError e
  | _ => .unexpected action.name

/-- Goes on with parameters that have the right form. -/
def asked {α : Type} (action : Action) (p : Checked α) : Steps ActionError α :=
  match p with
  | .valid p => pure p
  | .invalid is => throw (.badParameters action.name is)

variable (disk : Disk) (session : String) (ticket : Ticket)

/-- Saves a new filter. -/
def createSteps (p : CreateParameters) : Steps ActionError Reply := do
  let source ← lift (chosenText p)
  let warnings ← lift (warnings create ticket.time source)
  let s ← ExceptT.adapt create.stopped
    (Steps.create disk session ticket (.ofFields (newFields p source)))
  return ⟨"Filter \"" ++ s.name ++ "\" saved successfully",
    [("filter", s.toDatum), ("warnings", .texts warnings)]⟩

/-- The warnings of a changed text, if it is changed. -/
def changeWarnings (p : UpdateParameters) : Except ActionError (List String) :=
  match p.filter with
  | some source => warnings update ticket.time source
  | none => .ok []

/-- The answer to a change. -/
def changedReply (p : UpdateParameters) (warnings : List String) (s : SavedFilter) : Reply :=
  ⟨"Filter \"" ++ s.name ++ "\" updated successfully",
    [("filter", s.toDatum), ("affected_fields", .texts (p.changes.map (·.1))),
      ("warnings", .texts warnings)]⟩

/-- Changes a saved filter. -/
def updateSteps (p : UpdateParameters) : Steps ActionError Reply :=
  if p.changes.isEmpty then throw .noChanges
  else do
    let warnings ← lift (changeWarnings ticket p)
    let s ← ExceptT.adapt update.stopped
      (Steps.update disk session ticket.time (.value (.text p.id)) (.ofFields p.changes))
    return changedReply p warnings s

/-- Deletes a saved filter. -/
def deleteSteps (id : String) : Steps ActionError Reply := do
  let store ← current session
  let s ← lift (find store id)
  ExceptT.adapt delete.stopped (Steps.delete disk session (.value (.text id)))
  return ⟨"Filter \"" ++ s.name ++ "\" deleted successfully", [("filter_id", .text id)]⟩

/-- The steps of an action. -/
def steps (action : Action) (parameters : Datum) : Steps ActionError Reply := do
  match action with
  | list =>
    let p ← asked action (record ListParameters.ofFields parameters)
    lift (runList (← current session) p)
  | get =>
    let id ← asked action (record idParameter parameters)
    lift (runGet (← current session) id)
  | create =>
    let p ← asked action (record CreateParameters.ofFields parameters)
    createSteps disk session ticket p
  | update =>
    let p ← asked action (record UpdateParameters.ofFields parameters)
    updateSteps disk session ticket p
  | delete =>
    let id ← asked action (record idParameter parameters)
    deleteSteps disk session id
  | build =>
    let p ← asked action (record BuildParameters.ofFields parameters)
    lift (runBuild ticket.time p)
  | validate =>
    let source ← asked action (record textParameter parameters)
    lift (runValidate ticket.time source)

end Action

/-- The steps of a call of the tool for saved filters. -/
def FiltersCall.steps (disk : Disk) (session : String) (c : FiltersCall) :
    Steps ActionError Reply :=
  match Action.ofName? c.action with
  | some action => action.steps disk session c.ticket c.given
  | none => throw (.unknownAction c.action)

/-! ## On a disk that works -/

namespace Steps

variable {s s' : Sessions} {session : String} {store : Store} {disk : Disk}

theorem outcome_readFile_working (file : Option String) :
    (readFile .working file).outcome s = (.ok file, s) := by
  cases file <;> rfl

theorem outcome_enter_working {ticket : Ticket} :
    (enter .working session ticket).outcome s = match s.enter session ticket with
      | .ok (_, s') => (.ok (), s')
      | .error e => (.error (.refused (.file e)), s) := by
  obtain ⟨shelf, stores⟩ := s
  unfold enter Sessions.enter
  rw [outcome_bind, outcome_get]
  dsimp only
  cases Sessions.store? ⟨shelf, stores⟩ session with
  | some store => rfl
  | none =>
    cases shelf with
    | memory => rfl
    | file file =>
      simp only [Option.isNone_none, ↓reduceIte, outcome_bind, outcome_readFile_working, outcome_lift,
        Sessions.load]
      cases SavedFile.load session ticket file <;> rfl

theorem store?_of_commit (h : (commit disk session store).outcome s = (.ok (), s')) :
    s'.store? session = some store := by
  rw [commit, outcome_bind] at h
  split at h
  · cases h
    exact (Sessions.lookup_setStore ..).trans (if_pos rfl)
  · cases h

theorem outcome_commit_working :
    (commit .working session store).outcome s = match s.commit session store with
      | .ok s' => (.ok (), s')
      | .error e => (.error (.refused (.file e)), s) := by
  unfold commit persist Sessions.commit
  cases hshelf : s.shelf with
  | memory => simp [outcome_bind, hshelf]
  | file file =>
    simp only [outcome_bind, outcome_get, hshelf, outcome_readFile_working, outcome_lift]
    cases SavedFile.save session store file with
    | error e => rfl
    | ok text => rfl

/-- The steps end as the change does, or as its commit does. -/
theorem outcome_settle_working {α : Type} (x : Except Stop (α × Store)) :
    (settle .working session x).outcome s = match x with
      | .error e => (.error e, s)
      | .ok (a, store) => match s.commit session store with
        | .ok s' => (.ok a, s')
        | .error e => (.error (.refused (.file e)), s) := by
  cases x with
  | error e => rfl
  | ok result =>
    obtain ⟨a, store⟩ := result
    simp only [settle, outcome_bind, outcome_lift, outcome_commit_working]
    cases s.commit session store with
    | error e => rfl
    | ok s' => rfl

end Steps

/-! ## Changed filters are there -/

theorem Store.get?_put_self (store : Store) (s : SavedFilter) :
    (store.put s).get? s.id = some s := by
  induction store with
  | nil => simp [put, get?]
  | cons t rest ih =>
    rw [put]
    split
    · simp [get?]
    · next hne => rw [get?, List.find?_cons_of_neg (by simpa using hne), ← get?, ih]

theorem Store.get?_of_update {store store' : Store} {time : Calendar.Stamp} {id : String}
    {changes : StoreArguments} {s : SavedFilter} (hkeys : (changes.map Prod.fst).Nodup)
    (h : store.update time id changes = .ok (s, store')) : store'.get? id = some s := by
  obtain ⟨old, hfound, hchange, -, rfl⟩ := exists_of_update hkeys h
  have hid : s.id = id := hchange.id.trans (mem_of_get? hfound).2
  rw [← hid, get?_put_self]

namespace Steps

variable {s s' : Sessions} {session : String} {store : Store} {disk : Disk}

/-- Looking a filter up that was just changed finds it, so nothing can stop a change once it is
committed. -/
theorem outcome_update {time : Calendar.Stamp} {id : StoreArgument} {changes : StoreArguments}
    (hkeys : (changes.map Prod.fst).Nodup) :
    (update disk session time id changes).outcome s =
      let (store, key) := StoreRequest.reach ((s.store? session).getD []) id
      (settle disk session
        ((store.update time key changes).mapError (.ofChange id))).outcome s := by
  simp only [update, outcome_bind, outcome_current]
  generalize StoreRequest.reach ((s.store? session).getD []) id = reached
  obtain ⟨store, key⟩ := reached
  dsimp only
  cases hupdate : store.update time key changes with
  | error e => cases e <;> rfl
  | ok result =>
    obtain ⟨new, store'⟩ := result
    simp only [settle, outcome_bind, Except.mapError, outcome_lift]
    cases hcommit : (commit disk session store').outcome s with
    | mk committed s' =>
      cases committed with
      | error e => rfl
      | ok =>
        -- behind the commit only the look for the new filter is left, and it is found
        simp only [outcome_pure, store?_of_commit hcommit, Option.getD_some,
          Store.get?_of_update hkeys hupdate]

end Steps

open Steps (outcome_bind)

/-- On a disk that works, the steps of a request to an open store do what its run does. -/
theorem StoreRequest.outcome_steps {s : Sessions} {session : String} {store : Store}
    (hopen : s.store? session = some store) {request : StoreRequest} (ticket : Ticket)
    (hform : request.WellFormed) :
    (request.steps .working session ticket).outcome s =
      match request.run s session store ticket with
      | .ok (answer, s') => (.ok answer, s')
      | .error e => (.error (.refused e), s) := by
  cases request with
  | list | get _ | findByName _ | ofProject _ =>
    simp only [steps, outcome_bind, Steps.outcome_current, Steps.outcome_lift, hopen,
      Option.getD_some, run]
    cases hon : runOn store ticket _ with
    | error e => rfl
    | ok result =>
      obtain ⟨answer, changed⟩ := result
      rcases Store.change_of_runOn hon with ⟨rfl, -⟩ | ⟨_, -, hchange⟩
      · rfl
      · cases hchange
  | create given =>
    simp only [steps, Steps.create, outcome_bind, Steps.outcome_current,
      Steps.outcome_settle_working, hopen, Option.getD_some, run, runOn]
    cases store.create ticket given with
    | error e => rfl
    | ok result =>
      obtain ⟨new, store'⟩ := result
      simp only [Except.mapError, bind, Except.bind]
      cases s.commit session store' <;> rfl
  | update id changes =>
    simp only [steps, outcome_bind, Steps.outcome_update hform, Steps.outcome_settle_working, hopen,
      Option.getD_some, run, runOn]
    cases (reach store id).1.update ticket.time (reach store id).2 changes with
    | error e => cases e <;> rfl
    | ok result =>
      obtain ⟨new, store'⟩ := result
      simp only [Except.mapError, bind, Except.bind]
      cases s.commit session store' <;> rfl
  | delete id =>
    simp only [steps, Steps.delete, outcome_bind, Steps.outcome_current,
      Steps.outcome_settle_working, hopen, Option.getD_some, run, runOn]
    cases (reach store id).1.delete (reach store id).2 with
    | error e => rfl
    | ok store' =>
      simp only [Except.mapError, Except.map, bind, Except.bind]
      cases s.commit session store' <;> rfl
  | clear =>
    simp only [steps, Steps.clear, outcome_bind, Steps.outcome_commit_working, run, runOn]
    simp only [bind, Except.bind]
    cases s.commit session [] <;> rfl

/-- On a disk that works, the steps of a call to an open store do what its run does. -/
theorem StoreCall.outcome_steps {s : Sessions} {c : StoreCall} {store : Store}
    (hopen : s.store? c.session = some store) :
    (c.steps .working).outcome s = ((c.run s).1.mapError .refused, (c.run s).2) := by
  rw [run, Sessions.enter_of_open hopen, steps]
  cases hrequest : c.request? with
  | none => rfl
  | some request =>
    dsimp only
    rw [StoreRequest.outcome_steps hopen c.ticket
      (StoreRequest.wellFormed_of_ofCall? c.once hrequest)]
    cases request.run s c.session store c.ticket <;> rfl

/-- On a disk that works, the steps of a call from the opening of its session on do what its run
does. -/
theorem StoreCall.outcome_attempt (s : Sessions) (c : StoreCall) :
    (c.attempt .working).outcome s = ((c.run s).1.mapError .refused, (c.run s).2) := by
  rw [attempt, outcome_bind, Steps.outcome_enter_working]
  cases henter : s.enter c.session c.ticket with
  | error e => rw [run, henter]; rfl
  | ok result =>
    obtain ⟨store, opened⟩ := result
    have hopen : opened.store? c.session = some store := by
      rw [Sessions.store?_enter henter, if_pos rfl]
    have hrun : c.run s = c.run opened := by
      rw [run, henter, run, Sessions.enter_of_open hopen]
    rw [hrun]
    exact StoreCall.outcome_steps hopen

theorem Store.eq_of_update_notFound {store : Store} {time : Calendar.Stamp} {id id' : String}
    {changes : StoreArguments} (h : store.update time id changes = .error (.notFound id')) :
    id' = id := by
  unfold update at h
  dsimp only at h
  split at h
  · cases h
  split at h
  · cases h
    rfl
  split at h
  · cases h
  split at h <;> cases h

theorem Store.eq_of_delete_error {store : Store} {id : String} {e : StoreError}
    (h : store.delete id = .error e) : e = .notFound id := by
  unfold delete at h
  split at h
  · cases h
    rfl
  · cases h

namespace Action

variable {s : Sessions} {session : String} {ticket : Ticket}

/-- What an action ends with that changes a store or does not, once the changed store is
committed. -/
def kept (s : Sessions) (session : String) (action : Action) :
    Except ActionError (Reply × Option Store) → Except ActionError Reply × Sessions
  | .error e => (.error e, s)
  | .ok (reply, none) => (.ok reply, s)
  | .ok (reply, some store) => match s.commit session store with
    | .ok s' => (.ok reply, s')
    | .error e => (.error (action.writeError e), s)

theorem kept_runOn (action : Action) (store : Store) (parameters : Datum) :
    action.kept s session (action.runOn store ticket parameters) =
      match action.run s session store ticket parameters with
      | .ok (reply, s') => (.ok reply, s')
      | .error e => (.error e, s) := by
  rw [run]
  cases action.runOn store ticket parameters with
  | error e => rfl
  | ok result =>
    obtain ⟨reply, changed⟩ := result
    cases changed with
    | none => rfl
    | some store =>
      simp only [bind, Except.bind, kept]
      cases s.commit session store <;> rfl

theorem outcome_createSteps (p : CreateParameters) :
    (createSteps .working session ticket p).outcome s =
      create.kept s session (changed (runCreate ((s.store? session).getD []) ticket p)) := by
  simp only [createSteps, Steps.create, outcome_bind, Steps.outcome_lift, Steps.outcome_adapt,
    Steps.outcome_current, Steps.outcome_settle_working, runCreate]
  cases chosenText p with
  | error e => rfl
  | ok source =>
    simp only [bind, Except.bind]
    cases warnings create ticket.time source with
    | error e => rfl
    | ok found =>
      dsimp only
      cases Store.create _ ticket (.ofFields (newFields p source)) with
      | error e => rfl
      | ok result =>
        obtain ⟨new, store⟩ := result
        simp only [Except.mapError, changed, Except.map, kept]
        cases s.commit session store <;> rfl

theorem runUpdate_eq (store : Store) (p : UpdateParameters) :
    runUpdate store ticket p = if p.changes.isEmpty then .error .noChanges else
      changeWarnings ticket p >>= fun found =>
        match store.update ticket.time p.id (.ofFields p.changes) with
        | .error e => .error (.store e)
        | .ok (new, store) => .ok (changedReply p found new, store) := by
  unfold runUpdate changeWarnings
  cases p.filter <;> rfl

theorem outcome_updateSteps (p : UpdateParameters) :
    (updateSteps .working session ticket p).outcome s =
      update.kept s session (changed (runUpdate ((s.store? session).getD []) ticket p)) := by
  rw [updateSteps, runUpdate_eq]
  split
  · rfl
  simp only [outcome_bind, Steps.outcome_lift, Steps.outcome_adapt,
    Steps.outcome_update p.nodup_changes, Steps.outcome_settle_working, Store.reach_text]
  cases changeWarnings ticket p with
  | error e => rfl
  | ok found =>
    simp only [bind, Except.bind]
    cases hupdate : Store.update _ ticket.time p.id (.ofFields p.changes) with
    | error e =>
      cases e with
      | notFound id =>
        rw [Store.eq_of_update_notFound hupdate]
        rfl
      | _ => rfl
    | ok result =>
      obtain ⟨new, store⟩ := result
      simp only [Except.mapError, changed, Except.map, kept]
      cases s.commit session store <;> rfl

theorem outcome_deleteSteps (id : String) :
    (deleteSteps .working session id).outcome s =
      delete.kept s session (changed (runDelete ((s.store? session).getD []) id)) := by
  simp only [deleteSteps, Steps.delete, outcome_bind, Steps.outcome_lift, Steps.outcome_adapt,
    Steps.outcome_current, Steps.outcome_settle_working, runDelete, Store.reach_text]
  cases find _ id with
  | error e => rfl
  | ok found =>
    simp only [bind, Except.bind]
    cases hdelete : Store.delete _ id with
    | error e =>
      rw [Store.eq_of_delete_error hdelete]
      rfl
    | ok store =>
      simp only [Except.mapError, Except.map, changed, kept]
      cases s.commit session store <;> rfl

theorem outcome_lift_unchanged (action : Action) (x : Except ActionError Reply) :
    (Steps.lift x).outcome s = action.kept s session (unchanged x) := by
  cases x <;> rfl

theorem outcome_asked_bind {α : Type} {action : Action} {p : Checked α}
    {steps : α → Steps ActionError Reply} {go : α → Except ActionError (Reply × Option Store)}
    (h : ∀ a, (steps a).outcome s = action.kept s session (go a)) :
    Steps.outcome (asked action p >>= steps) s =
      action.kept s session (withParameters action p go) := by
  cases p with
  | valid a => exact h a
  | invalid is => rfl

/-- On a disk that works, the steps of an action do what its run does. -/
theorem outcome_steps (action : Action) (parameters : Datum) :
    (action.steps .working session ticket parameters).outcome s =
      match action.run s session ((s.store? session).getD []) ticket parameters with
      | .ok (reply, s') => (.ok reply, s')
      | .error e => (.error e, s) := by
  rw [← kept_runOn]
  cases action with
  | list | get | build | validate => exact outcome_asked_bind fun _ => outcome_lift_unchanged _ _
  | create => exact outcome_asked_bind outcome_createSteps
  | update => exact outcome_asked_bind outcome_updateSteps
  | delete => exact outcome_asked_bind outcome_deleteSteps

end Action

/-- On a disk that works, the steps of a call do what its run does. -/
theorem FiltersCall.outcome_steps (s : Sessions) (session : String) (c : FiltersCall) :
    (c.steps .working session).outcome s =
      ((c.run s session).answer, (c.run s session).sessions) := by
  rw [run, FiltersRun.ofCall, steps]
  cases Action.ofName? c.action with
  | none => rfl
  | some action =>
    dsimp only
    rw [Action.outcome_steps, given]
    cases action.run s session ((s.store? session).getD []) c.ticket
      (if c.parameters.isEmpty then .record [] else c.parameters) <;> rfl

end TaskSieve
