import Mathlib.Data.List.Induction
import TaskSieve.Proofs.Listing.Unreadable
import TaskSieve.Proofs.Saved.Event
import TaskSieve.Saved.Action

set_option autoImplicit false

/-! # Filters are vetted before they are saved

The tool for saved filters writes a text to the store in two ways, with a new filter and with a
change of its text. Both check the text first, whether it was given as such or built from columns,
so a store that starts empty only ever holds texts that were valid when they were set. -/

namespace TaskSieve

open Schema TaskSieve.Filter

/-- Whether a filter text can be read, and its check at a time finds no errors. -/
def Filter.Vetted (now : Calendar.Stamp) (text : String) : Prop :=
  ∃ e r, Expr.read text = .ok e ∧ e.check now = .ok r ∧ r.valid = true

theorem Filter.vetted_of_accept {now : Calendar.Stamp} {text : String} {e : Expr} {r : Report}
    (h : accept now text = .ok (e, r)) : Vetted now text := by
  unfold accept at h
  split at h
  · cases h
  next hread =>
  split at h
  · cases h
  next hcheck =>
  split at h
  · next hvalid =>
    cases h
    exact ⟨e, r, hread, hcheck, hvalid⟩
  · cases h

/-! ## Texts that actions check -/

namespace Action

variable {action : Action} {now : Calendar.Stamp} {ticket : Ticket} {store store' : Store}

theorem vetted_of_warnings {text : String} {found : List String}
    (h : warnings action now text = .ok found) : Vetted now text := by
  unfold warnings at h
  split at h
  · next haccept => exact vetted_of_accept haccept
  · cases h

theorem withParameters_eq_ok_iff {α β : Type} {p : Checked α} {go : α → Except ActionError β}
    {b : β} : withParameters action p go = .ok b ↔ ∃ a, p = .valid a ∧ go a = .ok b := by
  cases p <;> simp [withParameters]

theorem eq_name_of_ofName? {name : String} (h : ofName? name = some action) :
    action.name = name := by
  simpa using List.find?_some h

/-- A new filter that is saved has a vetted text. -/
theorem exists_of_runCreate {p : CreateParameters} {reply : Reply}
    (h : runCreate store ticket p = .ok (reply, store')) :
    ∃ text s, chosenText p = .ok text ∧ Vetted ticket.time text ∧
      store.create ticket (.ofFields (newFields p text)) = .ok (s, store') := by
  obtain ⟨text, htext, h⟩ := bind_eq_ok_iff.1 h
  obtain ⟨found, hwarnings, h⟩ := bind_eq_ok_iff.1 h
  split at h
  · cases h
  · next s _ hcreate =>
    cases h
    exact ⟨text, s, htext, vetted_of_warnings hwarnings, hcreate⟩

/-- A change that is saved has a vetted text, if it has one. -/
theorem exists_of_runUpdate {p : UpdateParameters} {reply : Reply}
    (h : runUpdate store ticket p = .ok (reply, store')) :
    ∃ s, (∀ text, p.filter = some text → Vetted ticket.time text) ∧
      store.update ticket.time p.id (.ofFields p.changes) = .ok (s, store') := by
  unfold runUpdate at h
  split at h
  · cases h
  dsimp only at h
  cases hp : p.filter with
  | none =>
    rw [hp] at h
    obtain ⟨found, -, h⟩ := bind_eq_ok_iff.1 h
    split at h
    · cases h
    · next s _ hupdate =>
      cases h
      exact ⟨s, by simp, hupdate⟩
  | some text =>
    rw [hp] at h
    obtain ⟨found, hwarnings, h⟩ := bind_eq_ok_iff.1 h
    split at h
    · cases h
    · next s _ hupdate =>
      cases h
      refine ⟨s, ?_, hupdate⟩
      rintro _ ⟨⟩
      exact vetted_of_warnings hwarnings

theorem eq_erase_of_runDelete {id : String} {reply : Reply}
    (h : runDelete store id = .ok (reply, store')) : store' = store.erase id := by
  obtain ⟨s, -, h⟩ := bind_eq_ok_iff.1 h
  unfold Store.delete at h
  split at h
  · cases h
  · next hdelete =>
    split at hdelete
    · cases hdelete
    · cases hdelete
      cases h
      rfl

end Action

/-! ## What is set -/

namespace UpdateParameters

theorem lookup_given (key k : String) (d : Option Datum) :
    (d.toList.map fun d => (k, d)).lookup key = if key = k then d else none := by
  cases d with
  | none => simp
  | some d =>
    rw [Option.toList_some, List.map_cons, List.map_nil, lookup_cons_eq_ite]
    rfl

theorem given_sublist (k : String) (d : Option Datum) :
    ((d.toList.map fun d => (k, d)).map Prod.fst).Sublist [k] := by
  cases d <;> simp

/-- A change sets the text that it is given. -/
theorem get?_changes_filter (p : UpdateParameters) :
    Fields.get? p.changes "filter" = p.filter.map .text := by
  simp [changes, Fields.get?, List.lookup_append, lookup_given]

/-- A change sets some of the fields that can be changed, each once. -/
theorem changes_sublist (p : UpdateParameters) :
    (p.changes.map Prod.fst).Sublist Store.changeable := by
  simp only [changes, List.map_append]
  exact ((((given_sublist ..).append (given_sublist ..)).append (given_sublist ..)).append
    (given_sublist ..)).append (given_sublist ..)

theorem nodup_changes (p : UpdateParameters) :
    ((StoreArguments.ofFields p.changes).map Prod.fst).Nodup := by
  rw [StoreArguments.map_fst_ofFields]
  exact p.changes_sublist.nodup (by decide)

end UpdateParameters

namespace Store

variable {store store' : Store} {ticket : Ticket}

/-- A new filter has the id of the ticket and the text that was chosen. -/
theorem id_filter_of_create {p : CreateParameters} {text : String} {s : SavedFilter}
    (h : store.create ticket (.ofFields (Action.newFields p text)) = .ok (s, store')) :
    s.id = ticket.id ∧ s.filter = text ∧ store' = store.put s := by
  obtain ⟨-, hread, hput⟩ := exists_of_create h
  rw [StoreArguments.fields_ofFields] at hread
  obtain ⟨id, -, -, filter, -⟩ := SavedFilter.ofFields_eq_valid_iff.1 hread
  obtain ⟨d, hd, hfilter⟩ := required_eq_valid_iff.1 filter
  have htext : .text text = d := Option.some.inj hd
  refine ⟨optional_of_none rfl id, ?_, hput⟩
  rw [← htext] at hfilter
  exact (Datum.text.inj (filledText_eq_valid_iff.1 hfilter).1).symm

/-- A changed filter keeps its id, and its text if the change has none. -/
theorem id_filter_of_update {p : UpdateParameters} {new : SavedFilter}
    (h : store.update ticket.time p.id (.ofFields p.changes) = .ok (new, store')) :
    ∃ old ∈ store, old.id = p.id ∧ new.id = p.id ∧ new.filter = p.filter.getD old.filter ∧
      store' = store.put new := by
  obtain ⟨old, hfound, hchange, -, hput⟩ := exists_of_update p.nodup_changes h
  obtain ⟨hold, hid⟩ := mem_of_get? hfound
  have hfilter := hchange.filter
  rw [SavedFilter.FieldAfter, StoreArguments.fields_ofFields, p.get?_changes_filter] at hfilter
  refine ⟨old, hold, hid, hchange.id.trans hid, ?_, hput⟩
  cases hp : p.filter with
  | none =>
    rw [hp] at hfilter
    exact hfilter
  | some text =>
    rw [hp] at hfilter
    exact (Datum.text.inj (filledText_eq_valid_iff.1 hfilter).1).symm

end Store

/-! ## Calls -/

/-- A call of the tool for saved filters. -/
structure FiltersCall where
  ticket : Ticket
  action : String
  parameters : Datum

namespace FiltersCall

/-- The parameters that the action of a call gets. -/
def given (c : FiltersCall) : Datum := if c.parameters.isEmpty then .record [] else c.parameters

/-- A call for a session whose store is open. -/
def run (s : Sessions) (session : String) (c : FiltersCall) : FiltersRun :=
  FiltersRun.ofCall s session ((s.store? session).getD []) c.ticket c.action c.parameters

/-- Whether a call asks to give the filter with an id a text: as a new filter, or by a change of its
text. -/
inductive Sets (c : FiltersCall) (id text : String) : Prop where
  | created {p : CreateParameters} (action : c.action = "create")
      (read : record CreateParameters.ofFields c.given = .valid p) (own : id = c.ticket.id)
      (chosen : Action.chosenText p = .ok text)
  | changed {p : UpdateParameters} (action : c.action = "update")
      (read : record UpdateParameters.ofFields c.given = .valid p) (own : id = p.id)
      (chosen : p.filter = some text)

/-- How a call, accepted or not, leaves the store of its session. -/
inductive Leaves (c : FiltersCall) (store : Store) : (accepted : Bool) → Store → Prop where
  | refused : Leaves c store false store
  | looked (create : c.action ≠ "create") (update : c.action ≠ "update") : Leaves c store true store
  | created {p : CreateParameters} {text : String} {s : SavedFilter} {store' : Store}
      (action : c.action = "create") (read : record CreateParameters.ofFields c.given = .valid p)
      (chosen : Action.chosenText p = .ok text) (vetted : Vetted c.ticket.time text)
      (create : store.create c.ticket (.ofFields (Action.newFields p text)) = .ok (s, store')) :
      Leaves c store true store'
  | changed {p : UpdateParameters} {s : SavedFilter} {store' : Store}
      (action : c.action = "update") (read : record UpdateParameters.ofFields c.given = .valid p)
      (vetted : ∀ text, p.filter = some text → Vetted c.ticket.time text)
      (update : store.update c.ticket.time p.id (.ofFields p.changes) = .ok (s, store')) :
      Leaves c store true store'
  | deleted {id : String} (action : c.action = "delete") : Leaves c store true (store.erase id)

variable {c : FiltersCall} {store store' : Store} {accepted : Bool} {s : Sessions}
  {session : String}

/-- An action that succeeds leaves the store in one of the ways. -/
theorem leaves_of_runOn {action : Action} (hname : action.name = c.action) {reply : Reply}
    {changed : Option Store}
    (h : action.runOn store c.ticket c.given = .ok (reply, changed)) :
    c.Leaves store true (changed.getD store) := by
  cases action with
  | list | get | build | validate =>
    obtain ⟨p, -, hrun⟩ := Action.withParameters_eq_ok_iff.1 h
    obtain ⟨_, -, hpair⟩ := map_eq_ok_iff.1 hrun
    cases hpair
    exact .looked (by simp [← hname, Action.name]) (by simp [← hname, Action.name])
  | create =>
    obtain ⟨p, hread, hrun⟩ := Action.withParameters_eq_ok_iff.1 h
    obtain ⟨_, hcreate, hpair⟩ := map_eq_ok_iff.1 hrun
    cases hpair
    obtain ⟨text, s, hchosen, hvetted, hcreate⟩ := Action.exists_of_runCreate hcreate
    exact .created hname.symm hread hchosen hvetted hcreate
  | update =>
    obtain ⟨p, hread, hrun⟩ := Action.withParameters_eq_ok_iff.1 h
    obtain ⟨_, hupdate, hpair⟩ := map_eq_ok_iff.1 hrun
    cases hpair
    obtain ⟨s, hvetted, hupdate⟩ := Action.exists_of_runUpdate hupdate
    exact .changed hname.symm hread hvetted hupdate
  | delete =>
    obtain ⟨id, -, hrun⟩ := Action.withParameters_eq_ok_iff.1 h
    obtain ⟨⟨_, new⟩, hdelete, hpair⟩ := map_eq_ok_iff.1 hrun
    cases hpair
    obtain rfl := Action.eq_erase_of_runDelete hdelete
    exact .deleted hname.symm

/-- A call leaves the store of its session in one of the ways. -/
theorem exists_leaves (hopen : s.store? session = some store) (c : FiltersCall) :
    ∃ store', (c.run s session).sessions.store? session = some store' ∧
      c.Leaves store (c.run s session).answer.isOk store' := by
  rw [run, hopen, Option.getD_some, FiltersRun.ofCall]
  split
  · exact ⟨store, hopen, .refused⟩
  next action hname =>
  have hname := Action.eq_name_of_ofName? hname
  dsimp only
  split
  · next reply s' hrun =>
    obtain ⟨⟨_, changed⟩, hon, hkeep⟩ := bind_eq_ok_iff.1 hrun
    have hleaves := leaves_of_runOn hname hon
    cases changed with
    | none =>
      cases hkeep
      exact ⟨store, hopen, hleaves⟩
    | some new =>
      dsimp only at hkeep
      split at hkeep
      · next hcommit =>
        cases hkeep
        exact ⟨new, by rw [Sessions.store?_commit hcommit, if_pos rfl], hleaves⟩
      · cases hkeep
  · exact ⟨store, hopen, .refused⟩

/-! ## What one call preserves -/

theorem Leaves.nodup (h : c.Leaves store accepted store')
    (hids : (store.map SavedFilter.id).Nodup) : (store'.map SavedFilter.id).Nodup := by
  cases h with
  | refused | looked _ _ => exact hids
  | created _ _ _ _ create =>
    obtain ⟨-, -, rfl⟩ := Store.id_filter_of_create create
    exact Store.nodup_put hids
  | changed _ _ _ update =>
    obtain ⟨_, -, -, -, -, rfl⟩ := Store.id_filter_of_update update
    exact Store.nodup_put hids
  | deleted _ => exact hids.sublist (List.filter_sublist.map _)

/-- After a call each filter has a vetted text that the call set, or the text that it had before and
that the call did not set. -/
theorem Leaves.set_or_kept (h : c.Leaves store accepted store')
    (hids : (store.map SavedFilter.id).Nodup) {f : SavedFilter} (hf : f ∈ store') :
    (accepted = true ∧ c.Sets f.id f.filter ∧ Vetted c.ticket.time f.filter) ∨
      (∃ g ∈ store, g.id = f.id ∧ g.filter = f.filter) ∧
        (accepted = true → ∀ text, ¬ c.Sets f.id text) := by
  cases h with
  | refused => exact .inr ⟨⟨f, hf, rfl, rfl⟩, by simp⟩
  | looked hcreate hupdate =>
    refine .inr ⟨⟨f, hf, rfl, rfl⟩, fun _ text hsets => ?_⟩
    cases hsets with
    | created action => exact hcreate action
    | changed action => exact hupdate action
  | deleted haction =>
    refine .inr ⟨⟨f, List.mem_of_mem_filter hf, rfl, rfl⟩, fun _ text hsets => ?_⟩
    cases hsets with
    | created action | changed action => simp [haction] at action
  | created haction hread hchosen hvetted create =>
    obtain ⟨hid, hfilter, rfl⟩ := Store.id_filter_of_create create
    -- the filter is the new one, or it has another id than the one that the call sets
    rcases (Store.mem_put_iff hids).1 hf with rfl | ⟨hold, hne⟩
    · exact .inl ⟨rfl, .created haction hread hid (hfilter ▸ hchosen), hfilter ▸ hvetted⟩
    · refine .inr ⟨⟨f, hold, rfl, rfl⟩, fun _ text hsets => ?_⟩
      cases hsets with
      | created _ _ own => exact hne (own.trans hid.symm)
      | changed action => simp [haction] at action
  | @changed p _ _ haction hread hvetted update =>
    obtain ⟨old, hold, hoid, hid, hfilter, rfl⟩ := Store.id_filter_of_update update
    rcases (Store.mem_put_iff hids).1 hf with rfl | ⟨hkept, hne⟩
    · cases hp : p.filter with
      | none =>
        rw [hp] at hfilter
        refine .inr ⟨⟨old, hold, hoid.trans hid.symm, hfilter.symm⟩, fun _ text hsets => ?_⟩
        cases hsets with
        | created action => simp [haction] at action
        | changed _ read _ chosen =>
          obtain rfl := Checked.valid.inj (hread.symm.trans read)
          simp [hp] at chosen
      | some text =>
        rw [hp] at hfilter
        exact .inl ⟨rfl, .changed haction hread hid (by rw [hp, hfilter]; rfl),
          hvetted _ (by rw [hp, hfilter]; rfl)⟩
    · refine .inr ⟨⟨f, hkept, rfl, rfl⟩, fun _ text hsets => ?_⟩
      cases hsets with
      | created action => simp [haction] at action
      | changed _ read own =>
        obtain rfl := Checked.valid.inj (hread.symm.trans read)
        exact hne (own.trans hid.symm)

end FiltersCall

/-! ## Runs -/

namespace Sessions

/-- The sessions after calls of the tool for one session. -/
def afterFilters (s : Sessions) (session : String) (calls : List FiltersCall) : Sessions :=
  calls.foldl (fun s c => (c.run s session).sessions) s

/-- The call at a place in a run is accepted, and sets the text of the filter with an id. -/
structure SetsAt (s : Sessions) (session : String) (calls : List FiltersCall) (n : Nat)
    (c : FiltersCall) (id text : String) : Prop where
  call : calls[n]? = some c
  accepted : (c.run (s.afterFilters session (calls.take n)) session).answer.isOk = true
  sets : c.Sets id text

/-- A call of a run was the last to set the text of a filter, and the text was vetted at the time of
the call. -/
def LastSet (s : Sessions) (session : String) (calls : List FiltersCall) (f : SavedFilter) : Prop :=
  ∃ n c, s.SetsAt session calls n c f.id f.filter ∧ Vetted c.ticket.time f.filter ∧
    ∀ m c' text, n < m → ¬ s.SetsAt session calls m c' f.id text

variable {s : Sessions} {session : String} {calls : List FiltersCall} {c : FiltersCall}

/-- One more call adds one place to a run. -/
theorem setsAt_append_singleton {n : Nat} {c' : FiltersCall} {id text : String} :
    s.SetsAt session (calls ++ [c]) n c' id text ↔
      s.SetsAt session calls n c' id text ∨ n = calls.length ∧ c' = c ∧
        (c.run (s.afterFilters session calls) session).answer.isOk = true ∧ c.Sets id text := by
  rcases lt_trichotomy n calls.length with hlt | rfl | hgt
  · have hcall : (calls ++ [c])[n]? = calls[n]? := List.getElem?_append_left hlt
    have htake : (calls ++ [c]).take n = calls.take n := List.take_append_of_le_length hlt.le
    constructor
    · rintro ⟨call, accepted, sets⟩
      exact .inl ⟨hcall ▸ call, htake ▸ accepted, sets⟩
    · rintro (⟨call, accepted, sets⟩ | ⟨rfl, -⟩)
      · exact ⟨hcall.symm ▸ call, htake.symm ▸ accepted, sets⟩
      · exact absurd hlt (lt_irrefl _)
  · have htake : (calls ++ [c]).take calls.length = calls := List.take_left
    constructor
    · rintro ⟨call, accepted, sets⟩
      obtain rfl : c = c' := by simpa using call
      exact .inr ⟨rfl, rfl, by rwa [htake] at accepted, sets⟩
    · rintro (⟨call, -, -⟩ | ⟨-, rfl, accepted, sets⟩)
      · simp at call
      · exact ⟨by simp, by rwa [htake], sets⟩
  · constructor
    · rintro ⟨call, -, -⟩
      have hnone : (calls ++ [c])[n]? = none := List.getElem?_eq_none (by simp; omega)
      rw [hnone] at call
      cases call
    · rintro (⟨call, -, -⟩ | ⟨rfl, -⟩)
      · rw [List.getElem?_eq_none hgt.le] at call
        cases call
      · exact absurd hgt (lt_irrefl _)

theorem SetsAt.lt {n : Nat} {id text : String} (h : s.SetsAt session calls n c id text) :
    n < calls.length :=
  (List.getElem?_eq_some_iff.1 h.call).1

/-- After calls on an empty store it is open, no id occurs twice in it, and a call was the last to
set the text of each filter. -/
theorem exists_lastSet (hopen : s.store? session = some []) (calls : List FiltersCall) :
    ∃ store, (s.afterFilters session calls).store? session = some store ∧
      (store.map SavedFilter.id).Nodup ∧ ∀ f ∈ store, s.LastSet session calls f := by
  induction calls using List.reverseRecOn with
  | nil => exact ⟨[], hopen, List.nodup_nil, by simp⟩
  | append_singleton calls c ih =>
    obtain ⟨store, hstore, hids, hlast⟩ := ih
    obtain ⟨store', hstore', hleaves⟩ := FiltersCall.exists_leaves hstore c
    refine ⟨store', ?_, hleaves.nodup hids, fun f hf => ?_⟩
    · rw [afterFilters, List.foldl_append]
      exact hstore'
    rcases hleaves.set_or_kept hids hf with
      ⟨haccepted, hsets, hvetted⟩ | ⟨⟨g, hg, hid, hfilter⟩, hnot⟩
    · -- the call that came last set the text
      have hset := setsAt_append_singleton.2 (.inr ⟨rfl, rfl, haccepted, hsets⟩)
      refine ⟨calls.length, c, hset, hvetted, fun m c' text hm hlater => ?_⟩
      rcases setsAt_append_singleton.1 hlater with hold | ⟨rfl, -⟩
      · exact absurd hold.lt (by omega)
      · exact absurd hm (lt_irrefl _)
    · -- the text is as before, and so is the call that set it
      obtain ⟨n, c', hset, hvetted, hno⟩ := hlast g hg
      rw [hid, hfilter] at hset
      rw [hfilter] at hvetted
      refine ⟨n, c', setsAt_append_singleton.2 (.inl hset), hvetted, fun m c'' text hm hlater => ?_⟩
      rcases setsAt_append_singleton.1 hlater with hold | ⟨-, rfl, haccepted, hsets⟩
      · exact hno m c'' text hm (hid ▸ hold)
      · exact hnot haccepted text hsets

/-! ## Listing by a saved filter -/

/-- Whether a listing is asked for by the saved filter with an id: no text counts beside the id. -/
def asksFor (id : String) (arguments : Fields) : Prop :=
  ∀ q, Listing.Query.ofFields arguments = .valid q →
    q.filterId = some id ∧ ∀ text ∈ q.filter, (Text.trim text.toList).isEmpty = true

/-- A listing by a saved filter takes the text of the filter. -/
theorem text?_of_source {store : Store} {q : Listing.Query} {id : String}
    (hid : q.filterId = some id)
    (hblank : ∀ text ∈ q.filter, (Text.trim text.toList).isEmpty = true)
    {origin : Listing.FilterSource} (h : Listing.source store q = .ok origin) :
    ∃ g ∈ store, origin.text? = some g.filter := by
  rw [Listing.source, hid] at h
  dsimp only at h
  split at h
  · next g hfound =>
    cases h
    refine ⟨g, (Store.mem_of_get? hfound).1, ?_⟩
    cases htext : q.filter with
    | none => rfl
    | some text =>
      rw [Listing.FilterSource.choose, if_pos (hblank text htext)]
      rfl
  · cases h

/-- A listing by a saved filter fails with no parse error, if every saved text can be read. -/
theorem kind_ne_parse_error {α : Type} [Measure α] {client : Remote.Client α}
    {settings : Listing.Fallback} {now : Calendar.Stamp} {store : Store}
    (hread : ∀ g ∈ store, ∃ e, Expr.read g.filter = .ok e) {id : String} {arguments : Fields}
    (hasks : asksFor id arguments) {connection : Remote.Connection α} {e : Listing.ListingError}
    (h : (Listing.ListingRun.ofCall client settings now store arguments connection).answer =
      .error e) : e.kind ≠ "parse_error" := by
  intro hkind
  obtain ⟨q, origin, text, p, hquery, hsource, htext, herror⟩ :=
    Listing.exists_of_parse_error h hkind
  obtain ⟨hid, hblank⟩ := hasks q hquery
  obtain ⟨g, hg, hfilter⟩ := text?_of_source hid hblank hsource
  obtain ⟨expr, hok⟩ := hread g hg
  obtain rfl : text = g.filter := Option.some.inj (htext.symm.trans hfilter)
  rw [hok] at herror
  cases herror

/-- Whatever is asked of the tool, a store that starts empty holds only texts that were vetted when
they were last set, and no listing by a filter in it fails with a parse error. -/
theorem vetted_afterFilters {s : Sessions} {session : String} (hopen : s.store? session = some [])
    (calls : List FiltersCall) :
    ∃ store, (s.afterFilters session calls).store? session = some store ∧
      ∀ f ∈ store, s.LastSet session calls f ∧
        ∀ (α : Type) [Measure α] (client : Remote.Client α) (settings : Listing.Fallback)
          (now : Calendar.Stamp) (arguments : Fields) (connection : Remote.Connection α),
          asksFor f.id arguments → ∀ e,
            (Listing.ListingRun.ofCall client settings now store arguments connection).answer =
              .error e → e.kind ≠ "parse_error" := by
  obtain ⟨store, hstore, -, hlast⟩ := exists_lastSet hopen calls
  have hread : ∀ g ∈ store, ∃ e, Expr.read g.filter = .ok e := by
    intro g hg
    obtain ⟨-, -, -, ⟨e, -, hread, -⟩, -⟩ := hlast g hg
    exact ⟨e, hread⟩
  refine ⟨store, hstore, fun f hf => ⟨hlast f hf, ?_⟩⟩
  intro α _ client settings now arguments connection hasks e herror
  exact kind_ne_parse_error hread hasks herror

/-- Five calls of the tool: a filter is saved, another one is refused because it cannot be read, and
a third is built from columns. The first one gets another text, but not one whose check fails. -/
def fiveCalls : List FiltersCall :=
  [⟨⟨"1", ⟨0, some 0⟩⟩, "create", .record [("name", .text "a"), ("filter", .text "done = true")]⟩,
    ⟨⟨"2", ⟨1, some 0⟩⟩, "create", .record [("name", .text "b"), ("filter", .text "done =")]⟩,
    ⟨⟨"3", ⟨2, some 0⟩⟩, "create", .record [("title", .text "c"), ("filters", .record
      [("filter_by", .list [.text "priority"]), ("filter_value", .list [.text "3"]),
        ("filter_comparator", .list [.text ">"])])]⟩,
    ⟨⟨"", ⟨3, some 0⟩⟩, "update", .record [("id", .text "1"), ("filter", .text "title like x")]⟩,
    ⟨⟨"", ⟨4, some 0⟩⟩, "update", .record [("id", .text "1"), ("filter", .text "done like x")]⟩]

/-- The texts after five calls, each vetted when it was last set. -/
theorem vetted_of_fiveCalls :
    ∃ store, (afterFilters ⟨.memory, [("s", [])]⟩ "s" fiveCalls).store? "s" = some store ∧
      store.map SavedFilter.filter = ["title like x", "priority > 3"] ∧
      ∀ f ∈ store, LastSet ⟨.memory, [("s", [])]⟩ "s" fiveCalls f := by
  have hopen : store? ⟨.memory, [("s", [])]⟩ "s" = some [] := rfl
  obtain ⟨store, hstore, hall⟩ := vetted_afterFilters hopen fiveCalls
  have htexts : ((afterFilters ⟨.memory, [("s", [])]⟩ "s" fiveCalls).store? "s").map
      (·.map SavedFilter.filter) = some ["title like x", "priority > 3"] := by decide +kernel
  rw [hstore] at htexts
  exact ⟨store, hstore, Option.some.inj htexts, fun f hf => (hall f hf).1⟩

end Sessions

end TaskSieve
