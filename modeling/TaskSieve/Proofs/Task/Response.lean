import TaskSieve.Filter.Evaluation
import TaskSieve.Proofs.Datum.Fields
import TaskSieve.Proofs.Schema.Accepted
import TaskSieve.Proofs.Task.Reading

set_option autoImplicit false

/-! # Tasks are read back from what is shown of them

A task that was read from a payload is shown with all of its fields, those of the schema in their
own form and the others as they came. What is shown is a payload again, and it is read as the same
task: the form that reading gives is final. -/

namespace TaskSieve

open Schema

namespace Datum

/-! ## Payloads -/

/-- A value of a JSON document whose numbers are finite. -/
inductive IsJson : Datum → Prop
  | null : IsJson .null
  | bool (b : Bool) : IsJson (.bool b)
  | int (n : Int) : IsJson (.int n)
  | num {x : Binary64} (finite : x.isFinite = true) : IsJson (.num x)
  | text (s : String) : IsJson (.text s)
  | list {items : List Datum} (all : ∀ d ∈ items, IsJson d) : IsJson (.list items)
  | record {fields : Fields} (all : ∀ f ∈ fields, IsJson f.2) : IsJson (.record fields)

theorem writtenItems_eq_map (items : List Datum) : writtenItems items = items.map written := by
  induction items with
  | nil => rfl
  | cons d rest ih => rw [writtenItems, ih, List.map_cons]

theorem writtenFields_eq_map (fields : Fields) :
    writtenFields fields = fields.map fun f => (f.1, written f.2) := by
  induction fields with
  | nil => rfl
  | cons f rest ih => rw [writtenFields, ih, List.map_cons]

/-- A value of a JSON document is written as it is. -/
theorem IsJson.written_eq {d : Datum} (h : d.IsJson) : d.written = d := by
  induction h with
  | null | bool | int | text => rfl
  | num finite => exact if_pos finite
  | list all ih =>
    rw [written, writtenItems_eq_map, List.map_congr_left ih, List.map_id']
  | @record fields _ ih =>
    have hsame : ∀ f ∈ fields, ((f.1, written f.2) : String × Datum) = f :=
      fun f hf => by rw [ih f hf]
    rw [written, writtenFields_eq_map, List.map_congr_left hsame, List.map_id']

theorem IsJson.of_mem {items : List Datum} (h : IsJson (.list items)) : ∀ d ∈ items, d.IsJson := by
  cases h with
  | list all => exact all

theorem IsJson.of_get? {fields : Fields} (h : IsJson (.record fields)) {key : String} {d : Datum}
    (hget : Fields.get? fields key = some d) : d.IsJson := by
  cases h with
  | record all => exact all (key, d) (mem_of_lookup hget)

theorem get?_writtenFields (fields : Fields) (key : String) :
    Fields.get? (writtenFields fields) key = (Fields.get? fields key).map written := by
  induction fields with
  | nil => rfl
  | cons f rest ih =>
    rw [writtenFields, Fields.get?_cons, Fields.get?_cons, ih]
    split <;> rfl

end Datum

/-! ## Further fields -/

namespace Schema

theorem extras_append (known : List String) (fs gs : Fields) :
    extras known (fs ++ gs) = extras known fs ++ extras known gs :=
  List.filter_append ..

theorem extras_extras (known : List String) (fs : Fields) :
    extras known (extras known fs) = extras known fs := by
  rw [extras, extras, List.filter_filter]
  simp only [Bool.and_self]

theorem extras_writtenFields (known : List String) (fs : Fields) :
    extras known (Datum.writtenFields fs) = Datum.writtenFields (extras known fs) := by
  rw [extras, Datum.writtenFields_eq_map, List.filter_map, Datum.writtenFields_eq_map]
  rfl

/-- Setting a field of the schema leaves the further fields alone. -/
theorem extras_put {known : List String} {key : String} (hkey : key ∈ known) (fs : Fields)
    (d : Datum) : extras known (Fields.put fs key d) = extras known fs := by
  have hknown : known.contains key = true := List.contains_iff_mem.2 hkey
  induction fs with
  | nil => simpa [Fields.put, extras] using hkey
  | cons f rest ih =>
    rw [Fields.put]
    split
    · next hf =>
      rw [beq_iff_eq] at hf
      simp only [extras, List.filter_cons, hf, hknown]
      rfl
    · simp only [extras, List.filter_cons] at ih ⊢
      rw [ih]

/-- Fields of the schema in front leave the further fields alone. -/
theorem extras_append_extras {known : List String} {own : Fields} (hown : extras known own = [])
    (fs : Fields) : extras known (own ++ extras known fs) = extras known fs := by
  rw [extras_append, extras_extras, hown, List.nil_append]

theorem isJson_append_extras {own fs : Fields} (hown : ∀ f ∈ own, f.2.IsJson)
    (h : Datum.IsJson (.record fs)) (known : List String) :
    Datum.IsJson (.record (own ++ extras known fs)) := by
  cases h with
  | record all =>
    refine .record fun f hf => ?_
    rcases List.mem_append.1 hf with hf | hf
    · exact hown f hf
    · exact all f (List.mem_of_mem_filter hf)

end Schema

/-! ## Items -/

/-- Whether an item keeps its further fields, with their values and in their order. -/
def KeepsExtras (known : List String) (old new : Datum) : Prop :=
  ∃ fs gs, old = .record fs ∧ new = .record gs ∧ extras known gs = extras known fs

/-- What is written of an item that was read keeps its further fields, and is read as that item. -/
structure ReadsBack {α : Type} (known : List String) (read : Fields → Checked α)
    (write : α → Fields) : Prop where
  kept {fs : Fields} {a : α} : read fs = .valid a → extras known (write a) = extras known fs
  back {fs : Fields} {a : α} : read fs = .valid a → read (write a) = .valid a
  json {fs : Fields} {a : α} : Datum.IsJson (.record fs) → read fs = .valid a →
    Datum.IsJson (.record (write a))

theorem Label.readsBack : ReadsBack keys ofFields toFields where
  kept {fs l} h := by
    obtain ⟨-, -, hextra⟩ := ofFields_eq_valid_iff.1 h
    rw [toFields, ← hextra, extras_append_extras rfl]
  back {fs l} h := by
    obtain ⟨-, -, hextra⟩ := ofFields_eq_valid_iff.1 h
    refine ofFields_eq_valid_iff.2 ⟨rfl, rfl, ?_⟩
    rw [toFields, ← hextra, extras_append_extras rfl]
  json {fs l} hjson h := by
    obtain ⟨-, -, hextra⟩ := ofFields_eq_valid_iff.1 h
    rw [toFields, ← hextra]
    refine isJson_append_extras (fun f hf => ?_) hjson keys
    simp only [List.mem_cons, List.not_mem_nil, or_false] at hf
    rcases hf with rfl | rfl
    · exact .int _
    · exact .text _

theorem Person.readsBack : ReadsBack keys ofFields toFields where
  kept {fs p} h := by
    obtain ⟨-, -, -, hextra⟩ := ofFields_eq_valid_iff.1 h
    rw [toFields, ← hextra, extras_append_extras rfl]
  back {fs p} h := by
    obtain ⟨-, -, -, hextra⟩ := ofFields_eq_valid_iff.1 h
    refine ofFields_eq_valid_iff.2 ⟨rfl, rfl, rfl, ?_⟩
    rw [toFields, ← hextra, extras_append_extras rfl]
  json {fs p} hjson h := by
    obtain ⟨-, -, -, hextra⟩ := ofFields_eq_valid_iff.1 h
    rw [toFields, ← hextra]
    refine isJson_append_extras (fun f hf => ?_) hjson keys
    simp only [List.mem_cons, List.not_mem_nil, or_false] at hf
    rcases hf with rfl | rfl | rfl
    · exact .int _
    · exact .text _
    · exact .text _

namespace ReadsBack

variable {α : Type} {known : List String} {read : Fields → Checked α} {write : α → Fields}
  {fs : Fields} {key : String} {xs : List α}

/-- The items that a list field writes. -/
def items (write : α → Fields) (xs : List α) : List Datum := xs.map fun x => .record (write x)

/-- The items of a field come from records, if there are any. -/
theorem exists_records (h : optional fs key [] (Task.listOrNull (record read)) = .valid xs)
    (hjson : Datum.IsJson (.record fs)) :
    ∀ x ∈ xs, ∃ gs, Datum.IsJson (.record gs) ∧ read gs = .valid x := by
  cases hget : Fields.get? fs key with
  | none =>
    rw [optional_of_none hget h]
    simp
  | some d =>
    have hd := optional_of_some hget h
    unfold Task.listOrNull at hd
    split at hd
    · cases hd
      simp
    · obtain ⟨ds, rfl, hds⟩ := list_eq_valid_iff.1 hd
      intro x hx
      obtain ⟨d, hmem, hread⟩ := exists_of_forall₂ hds hx
      obtain ⟨gs, rfl, hgs⟩ := record_eq_valid_iff.1 hread
      exact ⟨gs, (hjson.of_get? hget).of_mem _ hmem, hgs⟩

/-- The items of a field are read back. -/
theorem listOrNull_items (hback : ReadsBack known read write)
    (h : optional fs key [] (Task.listOrNull (record read)) = .valid xs)
    (hjson : Datum.IsJson (.record fs)) :
    Task.listOrNull (record read) (.list (items write xs)) = .valid xs := by
  refine list_eq_valid_iff.2 ⟨_, rfl, ?_⟩
  rw [items, List.forall₂_map_left_iff, List.forall₂_same]
  intro x hx
  obtain ⟨gs, -, hgs⟩ := exists_records h hjson x hx
  exact record_eq_valid_iff.2 ⟨_, rfl, hback.back hgs⟩

theorem isJson_items (hback : ReadsBack known read write)
    (h : optional fs key [] (Task.listOrNull (record read)) = .valid xs)
    (hjson : Datum.IsJson (.record fs)) : Datum.IsJson (.list (items write xs)) := by
  refine .list fun d hd => ?_
  obtain ⟨x, hx, rfl⟩ := List.mem_map.1 hd
  obtain ⟨gs, hgjson, hgs⟩ := exists_records h hjson x hx
  exact hback.json hgjson hgs

/-- Each item keeps its further fields. -/
theorem forall₂_items (hback : ReadsBack known read write)
    (h : optional fs key [] (Task.listOrNull (record read)) = .valid xs) {ds : List Datum}
    (hget : Fields.get? fs key = some (.list ds)) :
    List.Forall₂ (KeepsExtras known) ds (items write xs) := by
  have hread : Task.listOrNull (record read) (.list ds) = .valid xs := optional_of_some hget h
  have hlist : list (record read) (.list ds) = .valid xs := hread
  obtain ⟨_, heq, hds⟩ := list_eq_valid_iff.1 hlist
  obtain rfl := Datum.list.inj heq
  rw [items, List.forall₂_map_right_iff]
  refine hds.imp fun d x hread => ?_
  obtain ⟨gs, rfl, hgs⟩ := record_eq_valid_iff.1 hread
  exact ⟨gs, _, rfl, rfl, hback.kept hgs⟩

end ReadsBack

/-! ## Dates -/

/-- A date of a payload: null, or a text without a minus sign in front, as every text is that starts
with the digits of a year. -/
inductive Datum.IsPayloadDate : Datum → Prop
  | null : IsPayloadDate .null
  | text {s : String} (sign : s.toList.head? ≠ some '-') : IsPayloadDate (.text s)

namespace Task

/-- The short form of an accepted text does not begin as an unset date does, unless the text
itself does. -/
theorem not_isPrefixOf_shortText {text : String} {s : Calendar.Stamp}
    (hread : timestamp (.text text) = .valid s) (hsign : text.toList.head? ≠ some '-')
    (hset : unsetDate.toList.isPrefixOf text.toList = false) :
    unsetDate.toList.isPrefixOf s.shortText.toList = false := by
  have hwritten := Timestamp.isWritten_of_timestamp hread (by simp) (by simp)
  have hfirst : unsetDate.toList = (Calendar.CivilDate.mk 1 1 1).text.toList := rfl
  by_contra hunset
  obtain ⟨rest, hrest⟩ := List.isPrefixOf_iff_prefix.1 (Bool.not_eq_false _ ▸ hunset)
  -- the date in front is read in two ways
  have hshown := Timestamp.date?_date_text hwritten.range
    ('T' :: ((Calendar.timeText s.timeOfDay).toList ++ Timestamp.zoneText s.offset))
  rw [← Timestamp.toList_shortText, ← hrest, hfirst, Timestamp.date?_text (by decide)] at hshown
  have hday : s.dayNumber.toNat = 0 := congrArg Prod.fst (Option.some.inj hshown).symm
  have haccepted := Timestamp.timestamp_text_eq_valid_iff.1 hread
  rcases Timestamp.prefix_or_epochDay_le haccepted hsign with ⟨tail, htext⟩ | hlate
  · have hdate : s.date = ⟨1, 1, 1⟩ := by
      rw [Calendar.Stamp.date, hday]
      rfl
    rw [hdate, ← hfirst] at htext
    rw [htext, List.isPrefixOf_iff_prefix.2 (List.prefix_append _ _)] at hset
    cases hset
  · rw [Timestamp.epochDay] at hlate
    omega

/-- A date is read back from what is written for it. -/
theorem date_written {fs : Fields} {key : String} {o : Option Calendar.Stamp}
    (h : optional fs key none date = .valid o)
    (hdate : ∀ d, Fields.get? fs key = some d → d.IsPayloadDate) :
    date (Datum.written (.ofOption .stamp o)) = .valid o := by
  cases hget : Fields.get? fs key with
  | none =>
    rw [optional_of_none hget h]
    rfl
  | some d =>
    have hread := optional_of_some hget h
    cases hdate d hget with
    | null =>
      cases hread
      rfl
    | @text text sign =>
      rw [date] at hread
      split at hread
      · cases hread
        rfl
      · next hset =>
        obtain ⟨s, hs, rfl⟩ := Checked.map_eq_valid_iff.1 hread
        have hwritten := Timestamp.isWritten_of_timestamp hs (by simp) (by simp)
        have hshown := not_isPrefixOf_shortText hs sign (Bool.eq_false_iff.2 hset)
        show date (.text s.shortText) = _
        rw [date, hshown, if_neg Bool.false_ne_true]
        show (timestamp (.text s.shortText)).map some = _
        rw [timestamp_shortText hwritten]
        rfl

/-! ## Responses -/

/-- A payload of a task: a record of a JSON document with its dates in the form of the service. -/
structure IsPayload (fs : Fields) : Prop where
  json : Datum.IsJson (.record fs)
  dates : ∀ key ∈ ["due_date", "created", "updated"], ∀ d, Fields.get? fs key = some d →
    d.IsPayloadDate

/-- The fields that are shown of a task. -/
def responseFields (t : Task) : Fields :=
  Fields.put (Datum.writtenFields t.toFields) "percent_done" (.num t.percentDone)

theorem get?_responseFields (t : Task) (key : String) :
    Fields.get? t.responseFields key =
      if key = "percent_done" then some (.num t.percentDone)
      else (Fields.get? t.toFields key).map Datum.written := by
  rw [responseFields, Fields.get?_put, Datum.get?_writtenFields]

variable {fs : Fields} {t : Task}

/-- The further fields of a payload are shown as they came. -/
theorem ReadFrom.extras_responseFields (h : ReadFrom fs t) (hjson : Datum.IsJson (.record fs)) :
    extras keys t.responseFields = extras keys fs := by
  have hextra : Datum.IsJson (.record ([] ++ extras keys fs)) :=
    isJson_append_extras (by simp) hjson keys
  rw [List.nil_append] at hextra
  have hwritten : Datum.writtenFields (extras keys fs) = extras keys fs :=
    Datum.record.inj hextra.written_eq
  rw [responseFields, extras_put (by decide), extras_writtenFields, toFields, ← h.extra,
    extras_append_extras rfl, hwritten]

theorem ReadFrom.get?_labels (h : ReadFrom fs t) (hjson : Datum.IsJson (.record fs)) :
    Fields.get? t.responseFields "labels" =
      some (.list (ReadsBack.items Label.toFields t.labels)) := by
  rw [get?_responseFields, if_neg (by decide),
    ← (Label.readsBack.isJson_items h.labels hjson).written_eq]
  rfl

theorem ReadFrom.get?_assignees (h : ReadFrom fs t) (hjson : Datum.IsJson (.record fs)) :
    Fields.get? t.responseFields "assignees" =
      some (.list (ReadsBack.items Person.toFields t.assignees)) := by
  rw [get?_responseFields, if_neg (by decide),
    ← (Person.readsBack.isJson_items h.assignees hjson).written_eq]
  rfl

/-- A date of the schema is shown in its written form. -/
theorem optional_date_responseFields {key : String} {o : Option Calendar.Stamp}
    (hget : Fields.get? t.toFields key = some (.ofOption .stamp o)) (hkey : key ≠ "percent_done")
    (h : optional fs key none date = .valid o)
    (hdate : ∀ d, Fields.get? fs key = some d → d.IsPayloadDate) :
    optional t.responseFields key none date = .valid o := by
  refine optional_of_get? ?_ (date_written h hdate)
  rw [get?_responseFields, if_neg hkey, hget, Option.map_some]

/-- What is shown of a task is read as that task. -/
theorem ReadFrom.responseFields (h : ReadFrom fs t) (payload : IsPayload fs) :
    ReadFrom t.responseFields t where
  id := required_eq_valid_iff.2 ⟨_, get?_responseFields t "id", rfl⟩
  title := optional_of_get? (get?_responseFields t "title") rfl
  description := optional_of_get? (get?_responseFields t "description") rfl
  done := optional_of_get? (get?_responseFields t "done") rfl
  priority := by
    have hbounds : minPriority ≤ t.priority ∧ t.priority ≤ maxPriority :=
      of_optional (p := fun n => minPriority ≤ n ∧ n ≤ maxPriority) h.priority (by decide)
        fun _ _ => le_of_integerWithin
    refine optional_of_get? (get?_responseFields t "priority") ?_
    show integerWithin minPriority maxPriority (.int t.priority) = _
    simp [integerWithin, integerFrom, integer, Checked.andThen, Int.not_lt.2 hbounds.1,
      Int.not_lt.2 hbounds.2]
  percentDone := optional_of_get? (get?_responseFields t "percent_done") rfl
  dueDate := optional_date_responseFields rfl (by decide) h.dueDate (payload.dates _ (by simp))
  created := optional_date_responseFields rfl (by decide) h.created (payload.dates _ (by simp))
  updated := optional_date_responseFields rfl (by decide) h.updated (payload.dates _ (by simp))
  projectId := by
    refine optional_of_get? (d := .ofOption .int t.projectId) ?_ (nullable_integer_ofOption _)
    have hget : Fields.get? t.toFields "project_id" = some (.ofOption .int t.projectId) := rfl
    rw [get?_responseFields, if_neg (by decide), hget, Option.map_some]
    cases t.projectId <;> rfl
  labels := optional_of_get? (h.get?_labels payload.json)
    (Label.readsBack.listOrNull_items h.labels payload.json)
  assignees := optional_of_get? (h.get?_assignees payload.json)
    (Person.readsBack.listOrNull_items h.assignees payload.json)
  extra := by rw [h.extras_responseFields payload.json, h.extra]

/-- Whether the items of a list field, if there are any, keep their further fields. -/
def KeepsItems (known : List String) (key : String) (old new : Fields) : Prop :=
  ∀ ds, Fields.get? old key = some (.list ds) →
    ∃ ds', Fields.get? new key = some (.list ds') ∧ List.Forall₂ (KeepsExtras known) ds ds'

/-- The form that reading gives to a payload is final, and nothing is lost in it: what is shown of a
task is read again, it is shown in the same way, the task and its labels and people keep their
further fields, and every filter sees the same. -/
theorem toResponse_normal (payload : IsPayload fs) (h : ofFields fs = .valid t) :
    ∃ q t', t.toResponse = .record q ∧ ofFields q = .valid t' ∧ t'.toResponse = .record q ∧
      extras keys q = extras keys fs ∧ KeepsItems Label.keys "labels" fs q ∧
      KeepsItems Person.keys "assignees" fs q ∧
      ∀ (now : Calendar.Stamp) (e : Filter.Expr),
        e.matches now t'.toFields = e.matches now t.toFields := by
  have hread := ofFields_eq_valid_iff.1 h
  refine ⟨t.responseFields, t, rfl, ofFields_eq_valid_iff.2 (hread.responseFields payload), rfl,
    hread.extras_responseFields payload.json, ?_, ?_, fun now e => rfl⟩
  · intro ds hget
    exact ⟨_, hread.get?_labels payload.json, Label.readsBack.forall₂_items hread.labels hget⟩
  · intro ds hget
    exact ⟨_, hread.get?_assignees payload.json,
      Person.readsBack.forall₂_items hread.assignees hget⟩

/-- A payload in mixed forms: numbers and truth in texts, a blank and a short offset in its date. -/
theorem toResponse_normal_of_mixed_forms : ∃ fs t q t',
    IsPayload fs ∧ ofFields fs = .valid t ∧
      (t.done, t.priority, t.percentDone, t.dueDate.map Calendar.Stamp.shortText) =
        (true, 3, 1 / 2, some "2024-05-15T12:00:00.500000+02:00") ∧
      t.toResponse = .record q ∧ ofFields q = .valid t' ∧ t'.toResponse = .record q ∧
      (extras keys q).map Prod.fst = ["bucket_id"] := by
  have payload : IsPayload [("id", .text "7"), ("title", .text "write"), ("done", .text "Yes"),
      ("priority", .num 3), ("percent_done", .text " 0.5"), ("bucket_id", .int 4),
      ("due_date", .text "2024-05-15 12:00:00.5+0200"), ("created", .text "0001-01-01T00:00:00Z"),
      ("labels", .list [.record [("id", .int 1), ("hex_color", .text "e8e8e8")]]),
      ("assignees", .null)] := by
    constructor
    · have label : Datum.IsJson (.record [("id", .int 1), ("hex_color", .text "e8e8e8")]) := by
        refine .record ?_
        simp only [List.forall_mem_cons]
        exact ⟨.int 1, .text _, by simp⟩
      refine .record ?_
      simp only [List.forall_mem_cons]
      exact ⟨.text _, .text _, .text _, .num rfl, .text _, .int 4, .text _, .text _,
        .list (by simpa using label), .null, by simp⟩
    · simp only [List.forall_mem_cons]
      refine ⟨fun d hd => ?_, fun d hd => ?_, fun d hd => ?_, by simp⟩
      · obtain rfl := Option.some.inj (show some _ = some d from hd)
        exact .text (by decide)
      · obtain rfl := Option.some.inj (show some _ = some d from hd)
        exact .text (by decide)
      · cases hd
  have parts : ((ofFields [("id", .text "7"), ("title", .text "write"), ("done", .text "Yes"),
      ("priority", .num 3), ("percent_done", .text " 0.5"), ("bucket_id", .int 4),
      ("due_date", .text "2024-05-15 12:00:00.5+0200"), ("created", .text "0001-01-01T00:00:00Z"),
      ("labels", .list [.record [("id", .int 1), ("hex_color", .text "e8e8e8")]]),
      ("assignees", .null)]).value?.map fun t =>
        (t.done, t.priority, t.percentDone, t.dueDate.map Calendar.Stamp.shortText)) =
      some (true, 3, 1 / 2, some "2024-05-15T12:00:00.500000+02:00") := by
    decide +kernel
  obtain ⟨t, ht, hparts⟩ := Option.map_eq_some_iff.1 parts
  have accepted := Checked.value?_eq_some_iff.1 ht
  obtain ⟨q, t', shown, read, again, extra, -⟩ := toResponse_normal payload accepted
  refine ⟨_, t, q, t', payload, accepted, hparts, shown, read, again, ?_⟩
  rw [extra]
  rfl

end Task

end TaskSieve
