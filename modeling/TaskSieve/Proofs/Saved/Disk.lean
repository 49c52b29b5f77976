import TaskSieve.Proofs.Saved.Atomic
import TaskSieve.Proofs.Saved.Mirror

set_option autoImplicit false

/-! # Runs on a file

Calls of any sessions come in one after another, the disk refuses to give or to take the file during
some of them, and now and then all sessions are closed. At every moment of such a run memory and
file are in step (`inStep_afterDisk`), since every event keeps the file a mirror of the open stores
(`Mirrors.afterDisk`): the steps of a call that the disk stops leave what the opening of its session
left, and if it stops none of them, the call does what it does on a disk that works. -/

namespace TaskSieve

open Schema.Timestamp (IsUniversal)

/-! ## Disks that stop no step -/

namespace Steps

section

variable {ε α β : Type} {x y : Steps ε α} {f g : α → Steps ε β}

/-- Whether steps do what others do if they do not stop. -/
def EndsAs (x y : Steps ε α) : Prop := ∀ s, (x.outcome s).1.isOk = true → x.outcome s = y.outcome s

theorem EndsAs.refl (x : Steps ε α) : x.EndsAs x := fun _ _ => rfl

theorem EndsAs.bind (hx : x.EndsAs y) (hf : ∀ a, (f a).EndsAs (g a)) :
    EndsAs (x >>= f) (y >>= g) := by
  intro s hend
  have hs := hx s
  rw [outcome_bind] at hend ⊢
  rw [outcome_bind]
  cases hresult : x.outcome s with
  | mk result s' =>
    rw [hresult] at hs hend
    cases result with
    | error e => cases hend
    | ok a =>
      rw [← hs rfl]
      exact hf a s' hend

/-- The same steps, each followed by steps that end alike. -/
theorem EndsAs.bind_right (x : Steps ε α) (hf : ∀ a, (f a).EndsAs (g a)) :
    EndsAs (x >>= f) (x >>= g) :=
  (EndsAs.refl x).bind hf

end

section

variable (disk : Disk) (session : String)

theorem endsAs_readFile (file : Option String) :
    (readFile disk file).EndsAs (readFile .working file) := by
  intro s hend
  cases file with
  | none => rfl
  | some text =>
    rw [readFile] at hend ⊢
    split at hend
    · next hreadable => rw [if_pos hreadable]; rfl
    · cases hend

theorem endsAs_writeFile (text : String) :
    (writeFile disk text).EndsAs (writeFile .working text) := by
  intro s hend
  rw [writeFile] at hend ⊢
  split at hend
  · next hwritable => rw [if_pos hwritable]; rfl
  · cases hend

theorem endsAs_enter (ticket : Ticket) :
    (enter disk session ticket).EndsAs (enter .working session ticket) := by
  refine .bind_right _ fun s => ?_
  split
  · split
    · exact .refl _
    · next file _ => exact (endsAs_readFile disk file).bind fun found => .refl _
  · exact .refl _

theorem endsAs_persist (store : Store) :
    (persist disk session store).EndsAs (persist .working session store) := by
  refine .bind_right _ fun s => ?_
  split
  · exact .refl _
  · next file _ =>
    exact (endsAs_readFile disk file).bind fun found =>
      .bind_right _ fun text => endsAs_writeFile disk text

theorem endsAs_commit (store : Store) :
    (commit disk session store).EndsAs (commit .working session store) :=
  (endsAs_persist disk session store).bind fun _ => .refl _

theorem endsAs_settle {α : Type} (x : Except Stop (α × Store)) :
    (settle disk session x).EndsAs (settle .working session x) :=
  .bind_right _ fun (_, store) => (endsAs_commit disk session store).bind fun _ => .refl _

end

end Steps

open Steps

theorem StoreRequest.endsAs_steps (disk : Disk) (session : String) (ticket : Ticket)
    (request : StoreRequest) :
    (request.steps disk session ticket).EndsAs (request.steps .working session ticket) := by
  cases request with
  | list | get _ | findByName _ | ofProject _ => exact .refl _
  | create given =>
    exact EndsAs.bind (.bind_right _ fun store => endsAs_settle disk session _) fun _ => .refl _
  | update id changes =>
    exact EndsAs.bind (.bind_right _ fun store =>
      (endsAs_settle disk session _).bind fun _ => .refl _) fun _ => .refl _
  | delete id =>
    exact EndsAs.bind (.bind_right _ fun store => endsAs_settle disk session _) fun _ => .refl _
  | clear => exact (endsAs_commit disk session []).bind fun _ => .refl _

namespace StoreCall

theorem endsAs_steps (disk : Disk) (c : StoreCall) : (c.steps disk).EndsAs (c.steps .working) := by
  unfold steps
  split
  · next request _ => exact request.endsAs_steps disk c.session c.ticket
  · exact .refl _

/-- A call that no step of which is stopped does what its run does. -/
theorem endsAs_attempt (disk : Disk) (c : StoreCall) :
    (c.attempt disk).EndsAs (c.attempt .working) :=
  (endsAs_enter disk c.session c.ticket).bind fun _ => c.endsAs_steps disk

/-- A call that is stopped leaves the sessions as they were, or as the opening of its own left
them. -/
theorem sessions_of_stopped {disk : Disk} {c : StoreCall} {s : Sessions}
    (hstop : ((c.attempt disk).outcome s).1.isOk = false) :
    ((c.attempt disk).outcome s).2 = s ∨ ((c.attempt disk).outcome s).2 = c.opened s := by
  have henter : ((Steps.enter disk c.session c.ticket).outcome s).1.isOk = false →
      ((Steps.enter disk c.session c.ticket).outcome s).2 = s := atomic_enter c.ticket s
  have hends := endsAs_enter disk c.session c.ticket s
  rw [attempt, outcome_bind] at hstop ⊢
  cases hresult : (Steps.enter disk c.session c.ticket).outcome s with
  | mk result s' =>
    rw [hresult] at henter hends hstop
    cases result with
    | error e => exact .inl (henter rfl)
    | ok =>
      right
      -- the opening went through, so it did what it does on a disk that works
      have hopened : c.opened s = s' := by
        have hworking := (hends rfl).trans outcome_enter_working
        unfold opened
        cases hopen : s.enter c.session c.ticket with
        | ok opening =>
          rw [hopen] at hworking
          exact (Prod.mk.inj hworking).2.symm
        | error e =>
          rw [hopen] at hworking
          cases (Prod.mk.inj hworking).1
      rw [hopened]
      exact c.atomic_steps s' hstop

end StoreCall

/-! ## Events -/

/-- What happens to sessions whose file nobody else touches. -/
inductive DiskEvent where
  /-- A call comes in, and this is what the disk does during it. -/
  | call (c : StoreCall) (disk : Disk)
  /-- All sessions are closed. -/
  | restart

namespace DiskEvent

/-- The call of an event. -/
def call? : DiskEvent → Option StoreCall
  | call c _ => some c
  | restart => none

/-- Whether the clock shows universal time during an event. -/
def Timed (e : DiskEvent) : Prop := ∀ c, e.call? = some c → IsUniversal c.ticket.time

end DiskEvent

namespace Sessions

open SavedFile (storeIn)

/-- The sessions after an event. -/
def afterDisk (s : Sessions) : DiskEvent → Sessions
  | .call c disk => ((c.attempt disk).outcome s).2
  | .restart => s.reopen

/-- The sessions after events, one after another. -/
def afterAllDisk (s : Sessions) (events : List DiskEvent) : Sessions := events.foldl afterDisk s

/-- A call leaves what its run leaves, what the opening of its session leaves, or everything. -/
theorem afterDisk_call_cases (s : Sessions) (c : StoreCall) (disk : Disk) :
    s.afterDisk (.call c disk) = (c.run s).2 ∨ s.afterDisk (.call c disk) = c.opened s ∨
      s.afterDisk (.call c disk) = s := by
  rw [afterDisk]
  cases hend : ((c.attempt disk).outcome s).1.isOk with
  | true =>
    left
    rw [c.endsAs_attempt disk s hend, c.outcome_attempt]
  | false => exact .inr (StoreCall.sessions_of_stopped hend).symm

variable {s : Sessions} {kept : List (String × Store)}

/-! ## What one event preserves -/

/-- After an event the file still mirrors memory, and keeps the stores of all sessions but that of
the event. -/
theorem Mirrors.afterDisk (h : s.Mirrors kept) {e : DiskEvent} (htimed : e.Timed) :
    ∃ kept', (s.afterDisk e).Mirrors kept' ∧
      ∀ c, e.call? = some c → ∀ other, other ≠ c.session →
        kept'.lookup other = kept.lookup other := by
  cases e with
  | call c disk =>
    rcases afterDisk_call_cases s c disk with heq | heq | heq
    · obtain ⟨kept', hmirrors, hother⟩ := StoreCall.exists_mirrors_run h (htimed c rfl)
      refine ⟨kept', heq ▸ hmirrors, ?_⟩
      rintro _ ⟨⟩
      exact hother
    · exact ⟨kept, heq ▸ StoreCall.opened_mirrors h c, fun _ _ _ _ => rfl⟩
    · exact ⟨kept, heq.symm ▸ h, fun _ _ _ _ => rfl⟩
  | restart => exact ⟨kept, h.reopen, fun _ _ _ _ => rfl⟩

/-- An event touches no store but that of its call. -/
theorem store?_afterDisk_of_ne {e : DiskEvent} {c : StoreCall} (hcall : e.call? = some c)
    {other : String} (hne : other ≠ c.session) :
    (s.afterDisk e).store? other = s.store? other := by
  cases e with
  | call c' disk =>
    cases hcall
    rcases afterDisk_call_cases s c disk with heq | heq | heq
    · rw [heq, StoreCall.store?_run_of_ne hne]
    · rw [heq, StoreCall.store?_opened_of_ne hne]
    · rw [heq]
  | restart => cases hcall

/-! ## Memory and file -/

/-- The entry of a session in what a file holds; a session without one has an empty list. -/
def entryIn (contents : Fields) (session : String) : Datum :=
  (Fields.get? contents session).getD (.list [])

/-- Sessions whose memory and file agree. -/
structure InStep (s : Sessions) : Prop where
  /-- The file can be read, and its entry of each open session lists the filters of its store. -/
  entries : ∃ contents, s.onDisk? = some contents ∧
    ∀ session store, s.store? session = some store →
      entryIn contents session = SavedFile.entryOf store
  /-- Whatever comes next for one session leaves the entry and the store of any other. -/
  apart : ∀ (e : DiskEvent) (c : StoreCall), e.Timed → e.call? = some c →
    ∀ other, other ≠ c.session → (s.afterDisk e).store? other = s.store? other ∧
      (s.afterDisk e).onDisk?.map (Fields.get? · other) = s.onDisk?.map (Fields.get? · other)
  /-- After a restart every session opens with the store that it has now. -/
  reopened : ∀ session ticket ticket', ∃ store opened opened',
    s.enter session ticket = .ok (store, opened) ∧
      s.reopen.enter session ticket' = .ok (store, opened')
  /-- After a restart every look is answered as it is now. -/
  answers : ∀ (c c' : StoreCall) (request : StoreRequest), c'.session = c.session →
    c.request? = some request → c'.request? = some request → request.isLook = true →
      (c'.run s.reopen).1 = (c.run s).1

theorem Mirrors.entryIn (h : s.Mirrors kept) {session : String} {store : Store}
    (hopen : s.store? session = some store) :
    Sessions.entryIn (SavedFile.fieldsOf kept) session = SavedFile.entryOf store := by
  rw [Sessions.entryIn, SavedFile.get?_fieldsOf, ← h.current session store hopen, storeIn]
  cases kept.lookup session <;> rfl

/-- Sessions whose file mirrors memory are in step. -/
theorem Mirrors.inStep (h : s.Mirrors kept) : s.InStep where
  entries := ⟨_, h.onDisk?, fun _ _ hopen => h.entryIn hopen⟩
  apart := by
    intro e c htimed hcall other hne
    refine ⟨store?_afterDisk_of_ne hcall hne, ?_⟩
    obtain ⟨kept', hmirrors, hother⟩ := h.afterDisk htimed
    rw [hmirrors.onDisk?, h.onDisk?, Option.map_some, Option.map_some, SavedFile.get?_fieldsOf,
      SavedFile.get?_fieldsOf, hother c hcall other hne]
  reopened := by
    intro session ticket ticket'
    obtain ⟨opened, henter, -⟩ := h.exists_enter session ticket
    obtain ⟨opened', henter', -⟩ := h.reopen.exists_enter session ticket'
    exact ⟨_, opened, opened', henter, henter'⟩
  answers := by
    intro c c' request hsession hrequest hrequest' hlook
    rw [StoreCall.run_of_isLook h hrequest hlook, StoreCall.run_of_isLook h.reopen hrequest' hlook,
      hsession, StoreCall.runOn_of_isLook hlook _ c'.ticket c.ticket]

/-! ## Runs -/

/-- The file mirrors memory all along a run. -/
theorem Mirrors.afterAllDisk (h : s.Mirrors kept) {events : List DiskEvent}
    (htimed : ∀ e ∈ events, e.Timed) : ∃ kept', (s.afterAllDisk events).Mirrors kept' := by
  induction events generalizing s kept with
  | nil => exact ⟨kept, h⟩
  | cons e rest ih =>
    obtain ⟨kept', hmirrors, -⟩ := h.afterDisk (htimed e List.mem_cons_self)
    exact ih hmirrors fun e' he' => htimed e' (List.mem_cons_of_mem _ he')

/-- Closed sessions without a file mirror it. -/
theorem mirrors_nothing : Mirrors ⟨.file none, []⟩ [] where
  shelf := ⟨none, rfl, SavedFile.keeps_nothing⟩
  current := by
    intro session store hopen
    cases hopen

/-- Memory and file are in step after any events, from the first call on a file that does not exist,
if the clock shows universal time. -/
theorem inStep_afterDisk {events : List DiskEvent} (htimed : ∀ e ∈ events, e.Timed) :
    (afterAllDisk ⟨.file none, []⟩ events).InStep := by
  obtain ⟨kept, hmirrors⟩ := mirrors_nothing.afterAllDisk htimed
  exact hmirrors.inStep

/-- A call of a session at the start of the clock. -/
def early (session id operation : String) (places : List StoreArgument) (names : StoreArguments)
    (once : (names.map Prod.fst).Nodup) : StoreCall :=
  ⟨session, ⟨id, ⟨0, some 0⟩⟩, operation, places, names, once⟩

/-- A call that saves a filter under the name "é" for a session. -/
def savingFor (session id : String) : StoreCall :=
  early session id "create" []
    [("name", .value (.text "é")), ("filter", .value (.text "done = true"))] (by simp)

/-- Two sessions save filters in turns, one of them under a name that is taken, and a third one
while the disk is full. All sessions are closed, and then the first one deletes what it saved. -/
def takingTurns : List DiskEvent :=
  [.call (savingFor "s" "1") .working, .call (savingFor "t" "2") .working,
    .call (savingFor "s" "3") .working, .call (savingFor "u" "4") ⟨true, false⟩, .restart,
    .call (early "s" "" "delete" [.value (.text "1")] [] List.nodup_nil) .working,
    .call (early "t" "" "list" [] [] List.nodup_nil) .working]

/-- The first session has its filter after the first call, and all are in step at the end. -/
theorem inStep_of_takingTurns :
    ((afterAllDisk ⟨.file none, []⟩ (takingTurns.take 1)).store? "s").map
        (·.map SavedFilter.name) = some ["é"] ∧
      (afterAllDisk ⟨.file none, []⟩ takingTurns).InStep := by
  have htimed : ∀ e ∈ takingTurns, e.Timed := by
    simp only [takingTurns, List.forall_mem_cons, DiskEvent.Timed, DiskEvent.call?]
    simp [savingFor, early, IsUniversal]
    decide
  exact ⟨by decide +kernel, inStep_afterDisk htimed⟩

end Sessions

end TaskSieve
