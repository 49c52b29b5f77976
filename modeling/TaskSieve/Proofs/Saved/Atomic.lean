import TaskSieve.Proofs.Saved.Fault
import TaskSieve.Proofs.Saved.Steps

set_option autoImplicit false

/-! # Failures leave everything as it was

Steps are quiet if they never touch the sessions, and atomic if they leave the sessions as they were
whenever they stop. Quiet steps may stand before atomic ones; behind those only steps may stand that
cannot stop. All calls are made up in this way, so a call that fails leaves the stores and the file
as they were, wherever it fails (`Sessions.failsIntact`). -/

namespace TaskSieve

open Schema

namespace Steps

section

variable {ε ε' α β : Type}

/-- Whether steps never touch the sessions. -/
def Quiet (x : Steps ε α) : Prop := ∀ s, (x.outcome s).2 = s

/-- Whether steps leave the sessions as they were if they stop. -/
def Atomic (x : Steps ε α) : Prop := ∀ s, (x.outcome s).1.isOk = false → (x.outcome s).2 = s

/-- Whether steps never stop. -/
def Total (x : Steps ε α) : Prop := ∀ s, (x.outcome s).1.isOk = true

theorem quiet_pure (a : α) : Quiet (pure a : Steps ε α) := fun _ => rfl

theorem quiet_throw (e : ε) : Quiet (throw e : Steps ε α) := fun _ => rfl

theorem quiet_lift (x : Except ε α) : Quiet (lift x) := fun _ => rfl

theorem quiet_get : Quiet (get : Steps ε Sessions) := fun _ => rfl

theorem quiet_current (session : String) : Quiet (current session : Steps ε Store) := fun _ => rfl

theorem total_pure (a : α) : Total (pure a : Steps ε α) := fun _ => rfl

theorem total_modify (f : Sessions → Sessions) : Total (modify f : Steps ε PUnit) := fun _ => rfl

variable {x : Steps ε α} {f : α → Steps ε β}

theorem Quiet.atomic (h : x.Quiet) : x.Atomic := fun s _ => h s

theorem Total.atomic (h : x.Total) : x.Atomic := by
  intro s hstop
  rw [h s] at hstop
  cases hstop

theorem Quiet.bind (hx : x.Quiet) (hf : ∀ a, (f a).Quiet) : Quiet (x >>= f) := by
  intro s
  have hs := hx s
  rw [outcome_bind]
  split
  · next a s' h =>
    rw [h] at hs
    exact (hf a s').trans hs
  · next h =>
    rw [h] at hs
    exact hs

/-- Atomic steps behind quiet ones. -/
theorem Quiet.bind_atomic (hx : x.Quiet) (hf : ∀ a, (f a).Atomic) : Atomic (x >>= f) := by
  intro s
  have hs := hx s
  rw [outcome_bind]
  split
  · next a s' h =>
    rw [h] at hs
    obtain rfl : s' = s := hs
    exact hf a s'
  · next h =>
    rw [h] at hs
    exact fun _ => hs

/-- Steps that cannot stop, behind atomic ones. -/
theorem Atomic.bind_total (hx : x.Atomic) (hf : ∀ a, (f a).Total) : Atomic (x >>= f) := by
  intro s hstop
  have hs := hx s
  rw [outcome_bind] at hstop ⊢
  split at hstop
  · next a s' _ =>
    rw [hf a s'] at hstop
    cases hstop
  · next h =>
    rw [h] at hs
    exact hs rfl

theorem Atomic.adapt (h : x.Atomic) (g : ε → ε') : Atomic (ExceptT.adapt g x) := by
  intro s
  have hs := h s
  rw [outcome_adapt]
  cases hx : x.outcome s with
  | mk result s' =>
    rw [hx] at hs
    cases result with
    | ok a => exact fun hstop => nomatch hstop
    | error e => exact fun _ => hs rfl

end

/-! ## Operations on a store -/

section

variable {disk : Disk} {session : String}

theorem quiet_readFile (file : Option String) : (readFile disk file).Quiet := by
  cases file with
  | none => exact quiet_pure none
  | some text =>
    rw [readFile]
    split
    · exact quiet_pure _
    · exact quiet_throw _

theorem atomic_writeFile (text : String) : (writeFile disk text).Atomic := by
  rw [writeFile]
  split
  · exact (total_modify _).atomic
  · exact (quiet_throw _).atomic

/-- The file is read before the store that it gives is open. -/
theorem atomic_enter (ticket : Ticket) : (enter disk session ticket).Atomic := by
  refine quiet_get.bind_atomic fun s => ?_
  split
  · split
    · exact (total_modify _).atomic
    · next file _ =>
      exact (quiet_readFile file).bind_atomic fun found =>
        (quiet_lift _).bind_atomic fun store => (total_modify _).atomic
  · exact (quiet_pure ()).atomic

/-- The file is read and the new text is made before the file is written. -/
theorem atomic_persist (store : Store) : (persist disk session store).Atomic := by
  refine quiet_get.bind_atomic fun s => ?_
  split
  · exact (quiet_pure ()).atomic
  · next file _ =>
    exact (quiet_readFile file).bind_atomic fun found =>
      (quiet_lift _).bind_atomic fun text => atomic_writeFile text

/-- Nothing can stop a store from becoming current once it is written. -/
theorem atomic_commit (store : Store) : (commit disk session store).Atomic :=
  (atomic_persist store).bind_total fun _ => total_modify _

theorem atomic_settle {α : Type} (x : Except Stop (α × Store)) : (settle disk session x).Atomic :=
  (quiet_lift x).bind_atomic fun (a, store) =>
    (atomic_commit store).bind_total fun _ => total_pure a

theorem atomic_create (ticket : Ticket) (given : StoreArguments) :
    (create disk session ticket given).Atomic :=
  (quiet_current session).bind_atomic fun _ => atomic_settle _

/-- What follows the commit of a change could stop, but it never does. -/
theorem atomic_update (time : Calendar.Stamp) (id : StoreArgument) {changes : StoreArguments}
    (hkeys : (changes.map Prod.fst).Nodup) : (update disk session time id changes).Atomic := by
  intro s
  rw [outcome_update hkeys]
  exact atomic_settle _ s

theorem atomic_delete (id : StoreArgument) : (delete disk session id).Atomic :=
  (quiet_current session).bind_atomic fun _ => atomic_settle _

end

end Steps

/-! ## Calls -/

open Steps

section

variable {disk : Disk} {session : String} {ticket : Ticket}

theorem StoreRequest.quiet_steps {request : StoreRequest} (hlook : request.isLook = true) :
    (request.steps disk session ticket).Quiet := by
  cases request with
  | list | get _ | findByName _ | ofProject _ =>
    exact (quiet_current session).bind fun _ => (quiet_lift _).bind fun _ => quiet_pure _
  | create _ | update _ _ | delete _ | clear => cases hlook

theorem StoreRequest.atomic_steps {request : StoreRequest} (hform : request.WellFormed) :
    (request.steps disk session ticket).Atomic := by
  cases request with
  | list | get _ | findByName _ | ofProject _ => exact (quiet_steps rfl).atomic
  | create given => exact (atomic_create ticket given).bind_total fun _ => total_pure _
  | update id changes => exact (atomic_update ticket.time id hform).bind_total fun _ => total_pure _
  | delete id => exact (atomic_delete id).bind_total fun _ => total_pure _
  | clear => exact (atomic_commit []).bind_total fun _ => total_pure _

namespace Action

/-- Whether an action only looks, or does not even look at the store. -/
def isLook : Action → Bool
  | list | get | build | validate => true
  | create | update | delete => false

theorem quiet_asked {α : Type} (action : Action) (p : Checked α) : (asked action p).Quiet := by
  cases p with
  | valid p => exact quiet_pure p
  | invalid is => exact quiet_throw _

theorem quiet_steps {action : Action} (hlook : action.isLook = true) (parameters : Datum) :
    (action.steps disk session ticket parameters).Quiet := by
  cases action with
  | list | get =>
    exact (quiet_asked _ _).bind fun _ => (quiet_current session).bind fun _ => quiet_lift _
  | build | validate => exact (quiet_asked _ _).bind fun _ => quiet_lift _
  | create | update | delete => cases hlook

/-- The text of a new filter is found and checked before the filter is added. -/
theorem atomic_createSteps (p : CreateParameters) : (createSteps disk session ticket p).Atomic :=
  (quiet_lift _).bind_atomic fun _ => (quiet_lift _).bind_atomic fun _ =>
    ((atomic_create ticket _).adapt _).bind_total fun _ => total_pure _

/-- A new text is checked before the filter is changed. -/
theorem atomic_updateSteps (p : UpdateParameters) : (updateSteps disk session ticket p).Atomic := by
  rw [updateSteps]
  split
  · exact (quiet_throw _).atomic
  · exact (quiet_lift _).bind_atomic fun _ =>
      ((atomic_update ticket.time _ p.nodup_changes).adapt _).bind_total fun _ => total_pure _

/-- A filter is found before it is removed. -/
theorem atomic_deleteSteps (id : String) : (deleteSteps disk session id).Atomic :=
  (quiet_current session).bind_atomic fun _ => (quiet_lift _).bind_atomic fun _ =>
    ((atomic_delete _).adapt _).bind_total fun _ => total_pure _

theorem atomic_steps (action : Action) (parameters : Datum) :
    (action.steps disk session ticket parameters).Atomic := by
  cases action with
  | list | get | build | validate => exact (quiet_steps rfl parameters).atomic
  | create => exact (quiet_asked _ _).bind_atomic atomic_createSteps
  | update => exact (quiet_asked _ _).bind_atomic atomic_updateSteps
  | delete => exact (quiet_asked _ _).bind_atomic atomic_deleteSteps

end Action

theorem FiltersCall.atomic_steps (c : FiltersCall) : (c.steps disk session).Atomic := by
  rw [steps]
  cases Action.ofName? c.action with
  | none => exact (quiet_throw _).atomic
  | some action => exact action.atomic_steps c.given

theorem StoreCall.atomic_steps (c : StoreCall) : (c.steps disk).Atomic := by
  rw [steps]
  cases hrequest : c.request? with
  | none => exact (quiet_throw _).atomic
  | some request =>
    exact StoreRequest.atomic_steps (StoreRequest.wellFormed_of_ofCall? c.once hrequest)

end

/-! ## Answers -/

/-- An answer says that the action failed exactly if it is an error. -/
theorem actionAnswer_success_iff (answer : Except ActionError Reply) :
    Fields.get? (actionAnswer answer) "success" = some (.bool false) ↔ answer.isOk = false := by
  cases answer with
  | ok reply => exact iff_of_false (by simp [actionAnswer, Answer.success, Fields.get?_cons]) nofun
  | error e => exact iff_of_true (by simp [actionAnswer, Answer.failure, Fields.get?_cons]) rfl

namespace Sessions

/-- What failures leave of sessions when calls of one of them come in, on a disk that may fail. -/
structure FailsIntact (s : Sessions) (session : String) (disk : Disk) : Prop where
  /-- A call of the tool that answers without success leaves the stores and the file. -/
  failed : ∀ c : FiltersCall,
    Fields.get? (actionAnswer ((c.steps disk session).outcome s).1) "success" =
      some (.bool false) → ((c.steps disk session).outcome s).2 = s
  /-- Listing, showing, building and validating leave them, whatever they answer. -/
  looked : ∀ (c : FiltersCall) (action : Action), c.action = action.name → action.isLook = true →
    ((c.steps disk session).outcome s).2 = s
  /-- An operation of the store that is given up leaves them. -/
  stopped : ∀ (c : StoreCall) (e : Stop), c.session = session →
    ((c.steps disk).outcome s).1 = .error e → ((c.steps disk).outcome s).2 = s

/-- Wherever a call of an open session fails, and whatever the file holds, the call leaves the
stores and the file as they were. The steps in which it does so are those of the calls: on a disk
that works they give the answers and the sessions of the runs. -/
theorem failsIntact {s : Sessions} {session : String} {store : Store}
    (hopen : s.store? session = some store) :
    (∀ disk, s.FailsIntact session disk) ∧
      (∀ c : FiltersCall, (c.steps .working session).outcome s =
        ((c.run s session).answer, (c.run s session).sessions)) ∧
      ∀ c : StoreCall, c.session = session →
        (c.steps .working).outcome s = ((c.run s).1.mapError .refused, (c.run s).2) := by
  refine ⟨fun disk => ⟨?_, ?_, ?_⟩, FiltersCall.outcome_steps s session, ?_⟩
  · intro c hanswer
    exact c.atomic_steps s ((actionAnswer_success_iff _).1 hanswer)
  · intro c action hname hlook
    rw [FiltersCall.steps, hname, Action.ofName?_name]
    exact Action.quiet_steps hlook c.given s
  · intro c e hsession hstop
    exact c.atomic_steps s (by rw [hstop]; rfl)
  · rintro c rfl
    exact StoreCall.outcome_steps hopen

/-- A filter is to be saved where the file holds half an object. -/
theorem failsIntact_of_damagedFile :
    let s : Sessions := ⟨.file (some "\x7b"), [("s", [])]⟩
    let c : FiltersCall := ⟨⟨"1", ⟨0, some 0⟩⟩, "create",
      .record [("name", .text "a"), ("filter", .text "done = true")]⟩
    (c.run s "s").answer.isOk = false ∧ (c.run s "s").sessions = s := by
  intro s c
  have hopen : s.store? "s" = some [] := rfl
  obtain ⟨intact, runs, -⟩ := failsIntact hopen
  have hanswer : (c.run s "s").answer.isOk = false := by decide +kernel
  have hfailed := (intact .working).failed c
  rw [runs c, actionAnswer_success_iff] at hfailed
  exact ⟨hanswer, hfailed hanswer⟩

end Sessions

end TaskSieve
