import TaskSieve.Proofs.Except
import TaskSieve.Proofs.Saved.Change
import TaskSieve.Saved.Request
import Mathlib.Data.List.Nodup

set_option autoImplicit false

/-! # What requests do to a store

A store is sound if every filter in it has a name and neither a name nor an id occurs twice. `Step`
lists what a request can do: nothing if it is refused or only looks, and else one of four changes,
each with what was checked before it. `step_of_runOn` says that a request does nothing else, unless
it gives a name as bytes, `refuses_of_runOn` for which reasons it is refused, and `Step.sound` that
a sound store stays sound if the id for a new filter is new. -/

namespace TaskSieve

open Schema

/-- In a list where nothing is keyed twice, a member is the first that has its key. -/
theorem find?_key_of_mem {α : Type} {key : α → String} {xs : List α} (h : (xs.map key).Nodup)
    {a : α} (ha : a ∈ xs) : xs.find? (key · == key a) = some a := by
  obtain ⟨b, hb⟩ : ∃ b, xs.find? (key · == key a) = some b := by
    rw [← Option.isSome_iff_exists, List.find?_isSome]
    exact ⟨a, ha, BEq.rfl⟩
  have hkey : key b = key a := by simpa using List.find?_some hb
  rw [hb, List.inj_on_of_nodup_map h (List.mem_of_find?_eq_some hb) ha hkey]

/-! ## Arguments -/

namespace StoreArguments

variable (given : StoreArguments)

theorem map_fst_fields : given.fields.map Prod.fst = given.map Prod.fst := by
  simp [fields]

theorem get?_fields (key : String) :
    Fields.get? given.fields key = (given.lookup key).map StoreArgument.read :=
  lookup_map_snd StoreArgument.read given key

theorem map_fst_ofFields (fs : Fields) : (ofFields fs).map Prod.fst = fs.map Prod.fst := by
  simp [ofFields]

/-- Fields that are given as arguments are read as they are. -/
@[simp] theorem fields_ofFields (fs : Fields) : (ofFields fs).fields = fs := by
  rw [fields, ofFields, List.map_map]
  exact List.map_id fs

/-- An argument that equals a text is read as that text. -/
theorem get?_of_text? {given : StoreArguments} {key s : String} (h : given.text? key = some s) :
    Fields.get? given.fields key = some (.text s) := by
  obtain ⟨a, ha, hs⟩ := Option.bind_eq_some_iff.1 h
  rw [get?_fields, ha]
  cases a with
  | value d =>
    cases d <;> cases hs
    rfl
  | bytes t => cases hs

/-- What is read as a text equals that text, unless it was given as bytes. -/
theorem text?_of_get?_fields {given : StoreArguments} {key s : String}
    (hread : Fields.get? given.fields key = some (.text s))
    (hbytes : ∀ t, given.lookup key ≠ some (.bytes t)) : given.text? key = some s := by
  rw [get?_fields] at hread
  obtain ⟨a, ha, hs⟩ := Option.map_eq_some_iff.1 hread
  rw [text?, ha, Option.bind_some]
  cases a with
  | value d =>
    obtain rfl : d = .text s := hs
    rfl
  | bytes t => exact absurd ha (hbytes t)

end StoreArguments

namespace Store

/-! ## Sound stores -/

/-- What is promised of the filters of a session. -/
structure Sound (store : Store) : Prop where
  named : ∀ s ∈ store, s.name ≠ ""
  names : (store.map SavedFilter.name).Nodup
  ids : (store.map SavedFilter.id).Nodup

/-- Whether all ids in a store were given out before. -/
def Within (known : List String) (store : Store) : Prop := ∀ s ∈ store, s.id ∈ known

theorem sound_nil : Sound [] := ⟨by simp, by simp, by simp⟩

theorem within_nil (known : List String) : Within known [] := by simp [Within]

variable {store : Store}

/-- Only ids and names count. -/
theorem Sound.of_map_eq (h : store.Sound) {other : Store}
    (hids : other.map SavedFilter.id = store.map SavedFilter.id)
    (hnames : other.map SavedFilter.name = store.map SavedFilter.name) : other.Sound where
  named := by
    intro t ht
    have hmem : t.name ∈ store.map SavedFilter.name := hnames ▸ List.mem_map_of_mem ht
    obtain ⟨s, hs, heq⟩ := List.mem_map.1 hmem
    exact heq ▸ h.named s hs
  names := hnames ▸ h.names
  ids := hids ▸ h.ids

theorem Within.of_map_eq {known : List String} (h : store.Within known) {other : Store}
    (hids : other.map SavedFilter.id = store.map SavedFilter.id) : other.Within known := by
  intro t ht
  have hmem : t.id ∈ store.map SavedFilter.id := hids ▸ List.mem_map_of_mem ht
  obtain ⟨s, hs, heq⟩ := List.mem_map.1 hmem
  exact heq ▸ h s hs

/-- Each filter is found under its own id. -/
theorem Sound.get?_of_mem (h : store.Sound) {s : SavedFilter} (hs : s ∈ store) :
    store.get? s.id = some s :=
  find?_key_of_mem h.ids hs

/-- Each filter is found by its own name. -/
theorem Sound.findByName?_of_mem (h : store.Sound) {s : SavedFilter} (hs : s ∈ store) :
    store.findByName? s.name = some s :=
  find?_key_of_mem h.names hs

theorem mem_of_get? {id : String} {s : SavedFilter} (h : store.get? id = some s) :
    s ∈ store ∧ s.id = id :=
  ⟨List.mem_of_find?_eq_some h, by simpa using List.find?_some h⟩

/-! ## Putting and checking -/

theorem put_of_new {s : SavedFilter} (h : s.id ∉ store.map SavedFilter.id) :
    store.put s = store ++ [s] := by
  induction store with
  | nil => rfl
  | cons t rest ih =>
    simp only [List.map_cons, List.mem_cons, not_or] at h
    rw [put, if_neg (Ne.symm h.1), ih h.2, List.cons_append]

/-- The store with a filter in the place of the one with its id. -/
def replace (store : Store) (s : SavedFilter) : Store :=
  store.map fun t => if t.id = s.id then s else t

theorem put_of_mem {s : SavedFilter} (hids : (store.map SavedFilter.id).Nodup)
    (h : s.id ∈ store.map SavedFilter.id) : store.put s = store.replace s := by
  induction store with
  | nil => cases h
  | cons t rest ih =>
    rw [List.map_cons, List.nodup_cons] at hids
    rw [put, replace, List.map_cons]
    by_cases ht : t.id = s.id
    · -- the id does not come again, so the rest stays as it is
      have hrest : rest.map (fun u => if u.id = s.id then s else u) = rest := by
        rw [List.map_congr_left (g := id), List.map_id]
        intro u hu
        have hne : u.id ≠ s.id := fun heq => hids.1 (ht ▸ heq ▸ List.mem_map_of_mem hu)
        exact if_neg hne
      rw [if_pos ht, if_pos ht, hrest]
    · rw [List.map_cons, List.mem_cons] at h
      have hmem : s.id ∈ rest.map SavedFilter.id := h.resolve_left (Ne.symm ht)
      rw [if_neg ht, if_neg ht, ih hids.2 hmem, replace]

theorem map_id_replace (store : Store) (s : SavedFilter) :
    (store.replace s).map SavedFilter.id = store.map SavedFilter.id := by
  rw [replace, List.map_map]
  apply List.map_congr_left
  intro t _
  simp only [Function.comp_apply]
  split
  · next h => exact h.symm
  · rfl

/-- Putting a filter leaves every id once. -/
theorem nodup_put {s : SavedFilter} (hids : (store.map SavedFilter.id).Nodup) :
    ((store.put s).map SavedFilter.id).Nodup := by
  by_cases h : s.id ∈ store.map SavedFilter.id
  · rwa [put_of_mem hids h, map_id_replace]
  · rw [put_of_new h, List.map_append]
    exact hids.append (List.nodup_singleton _) (by simpa using h)

/-- After a filter is put, the others are those that were there before under another id. -/
theorem mem_put_iff {s t : SavedFilter} (hids : (store.map SavedFilter.id).Nodup) :
    t ∈ store.put s ↔ t = s ∨ t ∈ store ∧ t.id ≠ s.id := by
  by_cases hmem : s.id ∈ store.map SavedFilter.id
  · rw [put_of_mem hids hmem, replace, List.mem_map]
    constructor
    · rintro ⟨u, hu, rfl⟩
      split
      · exact .inl rfl
      · next hne => exact .inr ⟨hu, hne⟩
    · rintro (rfl | ⟨ht, hne⟩)
      · obtain ⟨u, hu, heq⟩ := List.mem_map.1 hmem
        exact ⟨u, hu, if_pos heq⟩
      · exact ⟨t, ht, if_neg hne⟩
  · rw [put_of_new hmem, List.mem_append, List.mem_singleton, or_comm]
    refine or_congr_right (iff_self_and.2 fun ht heq => hmem ?_)
    exact heq ▸ List.mem_map_of_mem ht

theorem nameTaken_none_eq_false_iff {name : String} :
    store.nameTaken name none = false ↔ ∀ t ∈ store, t.name ≠ name := by
  simp [nameTaken]

theorem nameTaken_some_eq_false_iff {name id : String} :
    store.nameTaken name (some id) = false ↔ ∀ t ∈ store, t.id ≠ id → t.name ≠ name := by
  simp only [nameTaken, List.any_eq_false, Bool.and_eq_true, beq_iff_eq, bne_iff_ne, ne_eq,
    Option.some.injEq, not_and, not_not]
  exact ⟨fun h t ht hid hname => hid (h t ht hname), fun h t ht hname => by
    by_contra hid
    exact h t ht hid hname⟩

theorem nameTaken_of_clashes {name : String} {except : Option String}
    (h : store.clashes (some name) except = none) : store.nameTaken name except = false :=
  Bool.eq_false_iff.2 (Option.filter_eq_none_iff.1 h name rfl)

/-! ## Steps -/

end Store

namespace StoreRequest

/-- Whether a request only looks at a store. -/
def isLook : StoreRequest → Bool
  | .list | .get _ | .findByName _ | .ofProject _ => true
  | _ => false

/-- The ids that a request takes from its ticket: a new filter takes one. -/
def newIds (ticket : Ticket) : StoreRequest → List String
  | .create _ => [ticket.id]
  | _ => []

/-- Whether arguments by name are given once each, and those of a new filter are known. -/
def WellFormed : StoreRequest → Prop
  | .create given => canCreate given.fields = true
  | .update _ changes => (changes.map Prod.fst).Nodup
  | _ => True

/-- Whether a request gives no name as bytes. -/
def NamesText : StoreRequest → Prop
  | .create given | .update _ given => ∀ t, given.lookup "name" ≠ some (.bytes t)
  | _ => True

/-- The requests that calls make are well formed. -/
theorem wellFormed_of_ofCall? {operation : String} {places : List StoreArgument}
    {names : StoreArguments} {request : StoreRequest} (hnames : (names.map Prod.fst).Nodup)
    (h : ofCall? operation places names = some request) : request.WellFormed := by
  unfold ofCall? at h
  dsimp only at h
  split at h
  case h_5 =>
    obtain ⟨hcreate, rfl⟩ : _ ∧ StoreRequest.create names = request := by simpa using h
    exact hcreate.2
  case h_6 =>
    obtain ⟨⟨id, changes⟩, hchange, rfl⟩ := Option.map_eq_some_iff.1 h
    unfold change? at hchange
    split at hchange
    · cases hchange
      exact hnames
    · cases hchange
      exact hnames.sublist (List.filter_sublist.map _)
    · cases hchange
  -- no other request has conditions
  case h_9 => cases h
  case h_1 | h_8 =>
    obtain ⟨-, h⟩ := Option.ite_none_right_eq_some.1 h
    cases h
    trivial
  all_goals
    obtain ⟨_, -, rfl⟩ := Option.map_eq_some_iff.1 h
    trivial

end StoreRequest

namespace Store

/-- What a request does to a store that it is made to with a ticket, and whether it is accepted. -/
inductive Step (store : Store) (ticket : Ticket) : StoreRequest → Bool → Store → Prop where
  /-- A refused request changes nothing. -/
  | refused {request : StoreRequest} : Step store ticket request false store
  /-- A request that looks changes nothing. -/
  | looked {request : StoreRequest} (look : request.isLook = true) :
      Step store ticket request true store
  /-- A new filter goes to the end, under the id of the ticket, if no filter has its name. -/
  | added {given : StoreArguments} {s : SavedFilter}
      (read : SavedFilter.ofFields ticket given.fields = .valid s)
      (id : s.id = ticket.id) (created : s.created = ticket.time)
      (updated : s.updated = ticket.time) (named : s.name ≠ "")
      (free : ∀ t ∈ store, t.name ≠ s.name) :
      Step store ticket (.create given) true (store ++ [s])
  /-- A changed filter stays in its place, if no other filter has its name. -/
  | changed {id : String} {changes : StoreArguments} {old new : SavedFilter}
      (found : store.get? id = some old) (change : old.ChangedBy changes.fields ticket.time new)
      (free : ∀ t ∈ store, t.id ≠ id → t.name ≠ new.name) :
      Step store ticket (.update (.value (.text id)) changes) true (store.replace new)
  /-- A deleted filter is gone, and the others stay. -/
  | deleted {id : String} {old : SavedFilter} (found : store.get? id = some old) :
      Step store ticket (.delete (.value (.text id))) true (store.erase id)
  /-- Clearing leaves nothing. -/
  | cleared : Step store ticket .clear true []

/-- Why a store refuses a request that is made to it with a ticket. -/
inductive Refuses (store : Store) (ticket : Ticket) : StoreRequest → Prop where
  /-- The name of a new filter is that of another filter. -/
  | nameTaken {given : StoreArguments} {t : SavedFilter} (mem : t ∈ store)
      (name : given.text? "name" = some t.name) : Refuses store ticket (.create given)
  /-- The fields of a new filter do not make a filter. -/
  | unreadable {given : StoreArguments} {issues : List Issue}
      (read : SavedFilter.ofFields ticket given.fields = .invalid issues) :
      Refuses store ticket (.create given)
  /-- A change names a field that cannot be changed. -/
  | fixedField {id : StoreArgument} {changes : StoreArguments} {c : String × StoreArgument}
      (mem : c ∈ changes) (fixed : c.1 ∉ changeable) : Refuses store ticket (.update id changes)
  /-- No filter has the id of a filter to change. -/
  | nothingToChange {id : StoreArgument} {changes : StoreArguments}
      (missing : ∀ key, id = .value (.text key) → store.get? key = none) :
      Refuses store ticket (.update id changes)
  /-- The new name of a filter is that of another filter. -/
  | newNameTaken {id : String} {changes : StoreArguments} {t : SavedFilter} (mem : t ∈ store)
      (other : t.id ≠ id) (name : changes.text? "name" = some t.name) :
      Refuses store ticket (.update (.value (.text id)) changes)
  /-- The changed fields of a filter do not make a filter. -/
  | unreadableChange {id : String} {changes : StoreArguments} {old : SavedFilter}
      {issues : List Issue} (found : store.get? id = some old)
      (read : SavedFilter.ofFields ⟨id, ticket.time⟩ (old.fieldsAfter changes.fields ticket.time) =
        .invalid issues) : Refuses store ticket (.update (.value (.text id)) changes)
  /-- No filter has the id of a filter to delete. -/
  | nothingToDelete {id : StoreArgument}
      (missing : ∀ key, id = .value (.text key) → store.get? key = none) :
      Refuses store ticket (.delete id)
  /-- A list or a record is looked up as an id. -/
  | noKey {id : StoreArgument} (key : id.isKey = false) : Refuses store ticket (.get id)
  /-- The filters to list have no order. -/
  | unordered (order : store.list? = none) : Refuses store ticket .list
  /-- The filters of a project have no order. -/
  | unorderedProject {project : StoreArgument}
      (order : StoreRequest.projectFilters store project = none) :
      Refuses store ticket (.ofProject project)

/-! ## Requests are steps -/

variable {store store' : Store} {ticket : Ticket}

/-- A new filter is what its fields make it, and is put into the store. -/
theorem exists_of_create {given : StoreArguments} {s : SavedFilter}
    (h : store.create ticket given = .ok (s, store')) :
    store.clashes (given.text? "name") none = none ∧
      SavedFilter.ofFields ticket given.fields = .valid s ∧ store' = store.put s := by
  unfold create at h
  split at h
  · cases h
  next hclash =>
  split at h
  · cases h
  next hread =>
  obtain ⟨rfl, rfl⟩ := Prod.mk.inj (Except.ok.inj h)
  exact ⟨hclash, hread, rfl⟩

/-- A new filter has the id and the time of the ticket: its arguments give neither. -/
theorem stamped_of_canCreate {fields : Fields} {s : SavedFilter}
    (hcan : StoreRequest.canCreate fields = true)
    (hread : SavedFilter.ofFields ticket fields = .valid s) :
    s.id = ticket.id ∧ s.created = ticket.time ∧ s.updated = ticket.time := by
  have hkeys : fields.all (fun f => StoreRequest.createKeys.contains f.1) = true := by
    simp only [StoreRequest.canCreate, Bool.and_eq_true] at hcan
    exact hcan.1.1
  have hnone {key : String} (hkey : key ∉ StoreRequest.createKeys) :
      Fields.get? fields key = none := Fields.get?_eq_none_of_all hkeys hkey
  obtain ⟨id, -, -, -, -, -, created, updated⟩ := SavedFilter.ofFields_eq_valid_iff.1 hread
  exact ⟨optional_of_none (hnone (by decide)) id, optional_of_none (hnone (by decide)) created,
    optional_of_none (hnone (by decide)) updated⟩

theorem step_of_create {given : StoreArguments} {s : SavedFilter}
    (hcan : StoreRequest.canCreate given.fields = true)
    (hbytes : ∀ t, given.lookup "name" ≠ some (.bytes t))
    (hfresh : ticket.id ∉ store.map SavedFilter.id)
    (h : store.create ticket given = .ok (s, store')) :
    Step store ticket (.create given) true store' := by
  obtain ⟨hclash, hread, rfl⟩ := exists_of_create h
  obtain ⟨hid, hcreated, hupdated⟩ := stamped_of_canCreate hcan hread
  obtain ⟨-, name, -⟩ := SavedFilter.ofFields_eq_valid_iff.1 hread
  obtain ⟨d, hd, hname⟩ := required_eq_valid_iff.1 name
  obtain ⟨rfl, hnamed⟩ := filledText_eq_valid_iff.1 hname
  rw [StoreArguments.text?_of_get?_fields hd hbytes] at hclash
  rw [put_of_new (by rwa [hid])]
  exact .added hread hid hcreated hupdated hnamed
    (nameTaken_none_eq_false_iff.1 (nameTaken_of_clashes hclash))

/-- The name that a filter has after changes is free, if the name that the changes give it is. -/
theorem free_of_fieldAfter (hs : store.Sound) {changes : StoreArguments} {id : String}
    {old new : SavedFilter} (hfound : store.get? id = some old)
    (hbytes : ∀ t, changes.lookup "name" ≠ some (.bytes t))
    (hafter : SavedFilter.FieldAfter changes.fields "name" filledText old.name new.name)
    (hclash : store.clashes (changes.text? "name") (some id) = none) :
    ∀ t ∈ store, t.id ≠ id → t.name ≠ new.name := by
  unfold SavedFilter.FieldAfter at hafter
  split at hafter
  · next d hd =>
    obtain ⟨rfl, -⟩ := filledText_eq_valid_iff.1 hafter
    rw [StoreArguments.text?_of_get?_fields hd hbytes] at hclash
    exact nameTaken_some_eq_false_iff.1 (nameTaken_of_clashes hclash)
  · -- the name stays, and only this filter has it
    obtain ⟨hold, rfl⟩ := mem_of_get? hfound
    intro t ht hne hname
    rw [hafter] at hname
    exact hne (congrArg SavedFilter.id (List.inj_on_of_nodup_map hs.names ht hold hname))

/-- A changed filter is the one with its id, changed, and is put into the store. -/
theorem exists_of_update {time : Calendar.Stamp} {changes : StoreArguments} {id : String}
    {new : SavedFilter} (hkeys : (changes.map Prod.fst).Nodup)
    (h : store.update time id changes = .ok (new, store')) :
    ∃ old, store.get? id = some old ∧ old.ChangedBy changes.fields time new ∧
      store.clashes (changes.text? "name") (some id) = none ∧ store' = store.put new := by
  unfold update at h
  dsimp only at h
  split at h
  · cases h
  next hfixed =>
  split at h
  · cases h
  next old hfound =>
  split at h
  · cases h
  next hclash =>
  split at h
  · cases h
  next new' hread =>
  obtain ⟨rfl, rfl⟩ := Prod.mk.inj (Except.ok.inj h)
  have hallowed : changes.fields.all (fun c => changeable.contains c.1) = true := by
    rw [Bool.not_eq_true, Bool.not_eq_false', List.isEmpty_iff, List.filter_eq_nil_iff,
      ← changes.map_fst_fields] at hfixed
    rw [List.all_eq_true]
    intro c hc
    simpa using hfixed c.1 (List.mem_map_of_mem hc)
  have hchange : old.ChangedBy changes.fields time new' :=
    SavedFilter.changedBy_of_ofFields (by rwa [changes.map_fst_fields])
      (Fields.get?_eq_none_of_all hallowed (by decide))
      (Fields.get?_eq_none_of_all hallowed (by decide)) hread
  exact ⟨old, hfound, hchange, hclash, rfl⟩

theorem step_of_update (hs : store.Sound) {changes : StoreArguments} {id : String}
    {new : SavedFilter} (hkeys : (changes.map Prod.fst).Nodup)
    (hbytes : ∀ t, changes.lookup "name" ≠ some (.bytes t))
    (h : store.update ticket.time id changes = .ok (new, store')) :
    Step store ticket (.update (.value (.text id)) changes) true store' := by
  obtain ⟨old, hfound, hchange, hclash, rfl⟩ := exists_of_update hkeys h
  obtain ⟨hold, rfl⟩ := mem_of_get? hfound
  have hmem : new.id ∈ store.map SavedFilter.id := by
    rw [hchange.id]
    exact List.mem_map_of_mem hold
  rw [put_of_mem hs.ids hmem]
  exact .changed hfound hchange (free_of_fieldAfter hs hfound hbytes hchange.name hclash)

theorem reach_text (store : Store) (key : String) :
    StoreRequest.reach store (.value (.text key)) = (store, key) := rfl

/-- An id that is no text reaches no filter. -/
theorem reach_cases (store : Store) (id : StoreArgument) :
    (∃ key, id = .value (.text key) ∧ StoreRequest.reach store id = (store, key)) ∨
      (∀ key, id ≠ .value (.text key)) ∧ StoreRequest.reach store id = ([], "") := by
  match id with
  | .value (.text key) => exact .inl ⟨key, rfl, rfl⟩
  | .bytes s => exact .inr ⟨nofun, rfl⟩
  | .value .null | .value (.bool _) | .value (.int _) | .value (.num _) | .value (.stamp _)
  | .value (.day _) | .value (.list _) | .value (.record _) => exact .inr ⟨nofun, rfl⟩

theorem update_nil_ne_ok (time : Calendar.Stamp) (id : String) (changes : StoreArguments)
    (result : SavedFilter × Store) : update [] time id changes ≠ .ok result := by
  unfold update
  simp only [get?, List.find?_nil]
  split <;> simp

/-- What changes a store: one of the four operations that write, each where it succeeds. -/
inductive Change (store : Store) (ticket : Ticket) : StoreRequest → Store → Prop where
  | created {given : StoreArguments} {s : SavedFilter} {store' : Store}
      (create : store.create ticket given = .ok (s, store')) :
      Change store ticket (.create given) store'
  | updated {id : String} {changes : StoreArguments} {s : SavedFilter} {store' : Store}
      (update : store.update ticket.time id changes = .ok (s, store')) :
      Change store ticket (.update (.value (.text id)) changes) store'
  | deleted {id : String} {old : SavedFilter} (found : store.get? id = some old) :
      Change store ticket (.delete (.value (.text id))) (store.erase id)
  | cleared : Change store ticket .clear []

theorem change_of_update {id : StoreArgument} {changes : StoreArguments} {answer : Datum}
    {changed : Option Store}
    (h : (StoreRequest.update id changes).runOn store ticket = .ok (answer, changed)) :
    ∃ store', changed = some store' ∧ store.Change ticket (.update id changes) store' := by
  simp only [StoreRequest.runOn] at h
  rcases reach_cases store id with ⟨key, rfl, hreach⟩ | ⟨-, hreach⟩
  · rw [hreach] at h
    split at h
    · next hupdate =>
      cases h
      exact ⟨_, rfl, .updated hupdate⟩
    · cases h
    · cases h
  · rw [hreach] at h
    split at h
    · next hupdate => exact absurd hupdate (update_nil_ne_ok _ _ _ _)
    · cases h
    · cases h

theorem change_of_delete {id : StoreArgument} {answer : Datum} {changed : Option Store}
    (h : (StoreRequest.delete id).runOn store ticket = .ok (answer, changed)) :
    ∃ store', changed = some store' ∧ store.Change ticket (.delete id) store' := by
  simp only [StoreRequest.runOn] at h
  rcases reach_cases store id with ⟨key, rfl, hreach⟩ | ⟨-, hreach⟩
  · rw [hreach] at h
    dsimp only [delete] at h
    cases hfound : store.get? key with
    | none => simp [hfound] at h
    | some old =>
      simp only [hfound] at h
      cases h
      exact ⟨_, rfl, .deleted hfound⟩
  · rw [hreach] at h
    cases h

/-- A request that succeeds looks, or changes the store. -/
theorem change_of_runOn {request : StoreRequest} {answer : Datum} {changed : Option Store}
    (h : request.runOn store ticket = .ok (answer, changed)) :
    changed = none ∧ request.isLook = true ∨
      ∃ store', changed = some store' ∧ store.Change ticket request store' := by
  cases request with
  | list | ofProject _ =>
    obtain ⟨_, -, hpair⟩ := map_eq_ok_iff.1 h
    cases hpair
    exact .inl ⟨rfl, rfl⟩
  | get id =>
    simp only [StoreRequest.runOn] at h
    split at h
    · cases h
      exact .inl ⟨rfl, rfl⟩
    · cases h
  | findByName name =>
    cases h
    exact .inl ⟨rfl, rfl⟩
  | create fields =>
    simp only [StoreRequest.runOn] at h
    split at h
    · next hcreate =>
      cases h
      exact .inr ⟨_, rfl, .created hcreate⟩
    · cases h
  | update id changes => exact .inr (change_of_update h)
  | delete id => exact .inr (change_of_delete h)
  | clear =>
    cases h
    exact .inr ⟨_, rfl, .cleared⟩

/-- A request that gives no name as bytes does one of the steps. -/
theorem step_of_runOn (hs : store.Sound) {request : StoreRequest} {answer : Datum}
    {changed : Option Store} (hform : request.WellFormed) (hnames : request.NamesText)
    (hfresh : ∀ id ∈ request.newIds ticket, id ∉ store.map SavedFilter.id)
    (h : request.runOn store ticket = .ok (answer, changed)) :
    Step store ticket request true (changed.getD store) := by
  rcases change_of_runOn h with ⟨rfl, hlook⟩ | ⟨store', rfl, hchange⟩
  · exact .looked hlook
  cases hchange with
  | created create => exact step_of_create hform hnames (hfresh _ List.mem_cons_self) create
  | updated update => exact step_of_update hs hform hnames update
  | deleted found => exact .deleted found
  | cleared => exact .cleared

/-! ## Refusals have reasons -/

theorem exists_of_clashes {asked : Option String} {except : Option String} {name : String}
    (h : store.clashes asked except = some name) :
    ∃ t ∈ store, asked = some t.name ∧ some t.id ≠ except := by
  obtain ⟨rfl, htaken⟩ := Option.filter_eq_some_iff.1 h
  obtain ⟨t, ht, heq⟩ := List.any_eq_true.1 htaken
  rw [Bool.and_eq_true, beq_iff_eq, bne_iff_ne] at heq
  exact ⟨t, ht, by rw [heq.1], heq.2⟩

theorem refuses_of_create {given : StoreArguments} {e : StoreError}
    (h : store.create ticket given = .error e) : Refuses store ticket (.create given) := by
  unfold create at h
  split at h
  · next hclash =>
    obtain ⟨t, ht, hname, -⟩ := exists_of_clashes hclash
    exact .nameTaken ht hname
  · split at h
    · next hread => exact .unreadable hread
    · cases h

theorem refuses_of_update {changes : StoreArguments} {id : String} {e : StoreError}
    (h : store.update ticket.time id changes = .error e) :
    Refuses store ticket (.update (.value (.text id)) changes) := by
  unfold update at h
  dsimp only at h
  split at h
  · next hfixed =>
    obtain ⟨k, ⟨v, hmem⟩, hk⟩ : ∃ k, (∃ v, (k, v) ∈ changes) ∧ k ∉ changeable := by
      simpa using hfixed
    exact .fixedField hmem hk
  split at h
  · next hmissing => exact .nothingToChange fun key hkey => by cases hkey; exact hmissing
  next old hfound =>
  split at h
  · next hclash =>
    obtain ⟨t, ht, hname, hother⟩ := exists_of_clashes hclash
    exact .newNameTaken ht (fun heq => hother (by rw [heq])) hname
  split at h
  · next hread => exact .unreadableChange hfound hread
  · cases h

/-- A request that fails is refused for one of the reasons. -/
theorem refuses_of_runOn {request : StoreRequest} {e : RequestError}
    (h : request.runOn store ticket = .error e) : Refuses store ticket request := by
  cases request with
  | list =>
    cases horder : store.list? with
    | none => exact .unordered horder
    | some filters =>
      rw [StoreRequest.runOn, horder] at h
      cases h
  | ofProject project =>
    cases horder : StoreRequest.projectFilters store project with
    | none => exact .unorderedProject horder
    | some filters =>
      rw [StoreRequest.runOn, horder] at h
      cases h
  | get id =>
    simp only [StoreRequest.runOn] at h
    split at h
    · cases h
    · next hkey => exact .noKey (by simpa using hkey)
  | findByName name => cases h
  | create fields =>
    simp only [StoreRequest.runOn] at h
    split at h
    · cases h
    · next hcreate => exact refuses_of_create hcreate
  | update id changes =>
    rcases reach_cases store id with ⟨key, rfl, hreach⟩ | ⟨hkind, -⟩
    · simp only [StoreRequest.runOn, hreach] at h
      split at h
      · cases h
      · next hupdate => exact refuses_of_update hupdate
      · next hupdate => exact refuses_of_update hupdate
    · exact .nothingToChange fun key hkey => absurd hkey (hkind key)
  | delete id =>
    refine .nothingToDelete ?_
    rintro key rfl
    cases hfound : store.get? key with
    | none => rfl
    | some old =>
      simp [StoreRequest.runOn, StoreRequest.reach, StoreArgument.text?, Datum.text?, delete,
        hfound] at h
  | clear => cases h

/-! ## What steps keep -/

section

variable {request : StoreRequest} {accepted : Bool}

/-- Another filter in the place of one with its id, under a name of its own, keeps a store sound. -/
theorem Sound.replace (hs : store.Sound) {s : SavedFilter} (hnamed : s.name ≠ "")
    (hfree : ∀ t ∈ store, t.id ≠ s.id → t.name ≠ s.name) : (store.replace s).Sound where
  named := by
    intro t ht
    obtain ⟨u, hu, rfl⟩ := List.mem_map.1 ht
    split
    · exact hnamed
    · exact hs.named u hu
  names := by
    rw [Store.replace, List.map_map]
    apply List.Nodup.map_on _ hs.ids.of_map
    intro t ht u hu hname
    simp only [Function.comp_apply] at hname
    by_cases htid : t.id = s.id <;> by_cases huid : u.id = s.id
    · exact List.inj_on_of_nodup_map hs.ids ht hu (htid.trans huid.symm)
    · rw [if_pos htid, if_neg huid] at hname
      exact absurd hname.symm (hfree u hu huid)
    · rw [if_neg htid, if_pos huid] at hname
      exact absurd hname (hfree t ht htid)
    · rw [if_neg htid, if_neg huid] at hname
      exact List.inj_on_of_nodup_map hs.names ht hu hname
  ids := by
    rw [map_id_replace]
    exact hs.ids

theorem Sound.append (hs : store.Sound) {s : SavedFilter} (hnamed : s.name ≠ "")
    (hfree : ∀ t ∈ store, t.name ≠ s.name) (hfresh : s.id ∉ store.map SavedFilter.id) :
    Sound (store ++ [s]) where
  named := by
    intro t ht
    rcases List.mem_append.1 ht with hold | hnew
    · exact hs.named t hold
    · rw [List.mem_singleton.1 hnew]
      exact hnamed
  names := by
    rw [List.map_append, List.nodup_append]
    refine ⟨hs.names, List.nodup_singleton _, ?_⟩
    rintro _ hold _ hnew
    obtain ⟨t, ht, rfl⟩ := List.mem_map.1 hold
    rw [List.mem_singleton.1 hnew]
    exact hfree t ht
  ids := by
    rw [List.map_append, List.nodup_append]
    refine ⟨hs.ids, List.nodup_singleton _, ?_⟩
    rintro id hold _ hnew rfl
    rw [List.mem_singleton.1 hnew] at hold
    exact hfresh hold

theorem Sound.erase (hs : store.Sound) (id : String) : (store.erase id).Sound where
  named := fun s h => hs.named s (List.mem_of_mem_filter h)
  names := hs.names.sublist (List.filter_sublist.map _)
  ids := hs.ids.sublist (List.filter_sublist.map _)

/-- A step keeps a store sound, if the id for a new filter is new. -/
theorem Step.sound (hs : store.Sound)
    (hfresh : ∀ id ∈ request.newIds ticket, id ∉ store.map SavedFilter.id)
    (h : Step store ticket request accepted store') : store'.Sound := by
  cases h with
  | refused => exact hs
  | looked _ => exact hs
  | added _ id _ _ named free =>
    exact hs.append named free (id ▸ hfresh _ List.mem_cons_self)
  | changed found change free =>
    apply hs.replace change.named
    rw [change.id, (mem_of_get? found).2]
    exact free
  | deleted _ => exact hs.erase _
  | cleared => exact sound_nil

/-- Every filter after a step was there before, with its id and its time of creation, or is new. -/
theorem Step.origin (h : Step store ticket request accepted store') {t : SavedFilter}
    (ht : t ∈ store') :
    (∃ s ∈ store, s.id = t.id ∧ s.created = t.created) ∨ t.id ∈ request.newIds ticket := by
  have kept {s : SavedFilter} (hs : s ∈ store) : ∃ u ∈ store, u.id = s.id ∧ u.created = s.created :=
    ⟨s, hs, rfl, rfl⟩
  cases h with
  | refused => exact .inl (kept ht)
  | looked _ => exact .inl (kept ht)
  | added _ id _ _ _ _ =>
    rcases List.mem_append.1 ht with hold | hnew
    · exact .inl (kept hold)
    · rw [List.mem_singleton.1 hnew, id]
      exact .inr List.mem_cons_self
  | changed found change _ =>
    obtain ⟨u, hu, rfl⟩ := List.mem_map.1 ht
    split
    · exact .inl ⟨_, (mem_of_get? found).1, change.id.symm, change.created.symm⟩
    · exact .inl (kept hu)
  | deleted _ => exact .inl (kept (List.mem_of_mem_filter ht))
  | cleared => cases ht

/-- After a step all ids were given out before or by the ticket. -/
theorem Step.within (h : Step store ticket request accepted store') {known : List String}
    (hknown : store.Within known) : store'.Within (known ++ request.newIds ticket) := by
  intro t ht
  rcases h.origin ht with ⟨s, hs, hid, -⟩ | hnew
  · rw [← hid]
    exact List.mem_append_left _ (hknown s hs)
  · exact List.mem_append_right _ hnew

end

end Store

end TaskSieve
