import TaskSieve.Filter.Evaluation
import TaskSieve.Proofs.Datum.Fields
import TaskSieve.Proofs.Filter.Moment
import TaskSieve.Proofs.Schema.Clock
import TaskSieve.Proofs.Task.Reading

set_option autoImplicit false

/-! # Filters on payloads

A payload whose fields have the types that the service uses can be filtered as it comes or as the
task that is read from it: every expression gives the same answer. Its times go through two readers,
one for filters and one for payloads, and through two tests for an unset date. -/

namespace TaskSieve

open Calendar

/-! ## Times of the service -/

namespace Calendar.Iso

/-- A date and a time as the service writes them, with the letter of universal time or an offset at
the end. -/
inductive ServiceText : List Char → Prop
  | universal {date : CivilDate} {r : Reading} {day clock : List Char} (onDay : DateText date day)
      (atTime : ClockText r clock) : ServiceText (day ++ 'T' :: (clock ++ ['Z']))
  | away {date : CivilDate} {r : Reading} {negative : Bool} {hours minutes : Nat}
      {day clock zone : List Char} (onDay : DateText date day) (atTime : ClockText r clock)
      (offset : OffsetText negative hours minutes zone) :
      ServiceText (day ++ 'T' :: (clock ++ zone))

variable {cs : List Char}

/-- What the service writes has no blank in it. -/
theorem ServiceText.isBlank (h : ServiceText cs) : ∀ c ∈ cs, Text.isBlank c = false := by
  have digit {c : Char} (hc : c.isDigit = true) : Text.isBlank c = false :=
    Text.isBlank_of_isDigit (Text.isDigit_of_isDigit hc)
  have day {date : CivilDate} {ds : List Char} (hds : DateText date ds) :
      ∀ c ∈ ds, Text.isBlank c = false := fun c hc => by
    rcases hds.isDigit_or_hyphen c hc with hc | rfl
    · exact digit hc
    · decide
  have clock {r : Reading} {ds : List Char} (hds : ClockText r ds) :
      ∀ c ∈ ds, Text.isBlank c = false := fun c hc => by
    rcases hds.isDigit_or_mark c hc with hc | rfl | rfl
    · exact digit hc
    · decide
    · decide
  cases h with
  | universal onDay atTime =>
    simp only [List.mem_append, List.mem_cons, List.not_mem_nil, or_false]
    rintro c (hc | rfl | hc | rfl)
    · exact day onDay c hc
    · decide
    · exact clock atTime c hc
    · decide
  | away onDay atTime offset =>
    simp only [List.mem_append, List.mem_cons]
    rintro c (hc | rfl | hc | hc)
    · exact day onDay c hc
    · decide
    · exact clock atTime c hc
    · rcases offset.isDigit_or_mark c hc with hc | rfl | rfl | rfl
      · exact digit hc
      · decide
      · decide
      · decide

/-- What the service writes starts with a digit. -/
theorem ServiceText.exists_digit (h : ServiceText cs) :
    ∃ c rest, cs = c :: rest ∧ c.isDigit = true := by
  cases h with
  | universal onDay | away onDay =>
    obtain ⟨c, rest, rfl, hc⟩ := onDay.exists_digit
    exact ⟨c, _, rfl, hc⟩

end Calendar.Iso

namespace Filter.Moment

open Calendar.Iso (DateText ClockText OffsetText Pair ServiceText)

theorem spellOffsets_front {date : CivilDate} {r : Iso.Reading} {day clock : List Char}
    (onDay : DateText date day) (atTime : ClockText r clock) (zone : List Char) :
    spellOffsets (day ++ 'T' :: (clock ++ zone)) = day ++ 'T' :: (clock ++ spellOffsets zone) := by
  have hday : ∀ c ∈ day, c ≠ 'Z' := by
    rintro c hc rfl
    exact absurd (onDay.isDigit_or_hyphen _ hc) (by decide)
  have hclock : ∀ c ∈ clock, c ≠ 'Z' := by
    rintro c hc rfl
    exact absurd (atTime.isDigit_or_mark _ hc) (by decide)
  have hmark : day ++ 'T' :: (clock ++ zone) = day ++ (['T'] ++ (clock ++ zone)) := rfl
  rw [hmark, spellOffsets_append, spellOffsets_append, spellOffsets_append, spellOffsets_of_ne hday,
    spellOffsets_of_ne hclock]
  rfl

/-- A time of the service is read for filters as payloads read it. -/
theorem read?_of_serviceText {cs : List Char} (h : ServiceText cs) {s : Stamp}
    (hread : Schema.Timestamp.ofText? cs = some s) : Iso.read? (spellOffsets cs) = some s := by
  cases h with
  | universal onDay atTime =>
    rw [Schema.Timestamp.ofText?, Schema.Timestamp.ofDigits?_of_dateText onDay,
      Option.or_none] at hread
    have ends : Schema.Timestamp.EndsTime ['Z'] := by simp [Schema.Timestamp.EndsTime]
    obtain ⟨hvalid, time, offset, hoffset, rfl⟩ :=
      Schema.Timestamp.written?_eq_some_of_clockText onDay atTime ends hread
    cases hoffset
    have zero : Pair 0 ['0', '0'] := ⟨rfl, List.all_eq_true.1 (by decide), rfl⟩
    have universal : OffsetText false 0 0 (spellOffsets ['Z']) := .mk (.inl rfl) zero zero
    rw [spellOffsets_front onDay atTime]
    exact onDay.read?_append hvalid
      (Iso.readTime?_eq atTime time universal (by decide) (by decide)) 'T'
  | @away _ _ _ _ _ _ _ zone onDay atTime offset =>
    rw [Schema.Timestamp.ofText?, Schema.Timestamp.ofDigits?_of_dateText onDay,
      Option.or_none] at hread
    have hzone : ∀ c ∈ zone, c ≠ 'Z' := by
      rintro c hc rfl
      exact absurd (offset.isDigit_or_mark _ hc) (by decide)
    have ends : Schema.Timestamp.EndsTime zone := by
      obtain ⟨signed, -, -⟩ := offset
      intro c hc
      obtain rfl := Option.some.inj hc
      rcases signed with rfl | rfl <;> decide
    obtain ⟨hvalid, time, found, hoffset, rfl⟩ :=
      Schema.Timestamp.written?_eq_some_of_clockText onDay atTime ends hread
    obtain ⟨hhours, hminutes, rfl⟩ :=
      Schema.Timestamp.offset?_eq_some_of_offsetText offset hoffset
    rw [spellOffsets_front onDay atTime, spellOffsets_of_ne hzone]
    exact onDay.read?_append hvalid (Iso.readTime?_eq atTime time offset hhours hminutes) 'T'

/-- A date of a payload is the moment that is kept of it; without one it is none. -/
theorem moment_of_date {text : String} (h : ServiceText text.toList) {o : Option Stamp}
    (hread : Task.date (.text text) = .valid o) (now : Stamp) :
    Coercion.moment now (.text text) = .ok (o.bind ofStamp) := by
  have htrim : Text.trim text.toList = text.toList := Text.trimWhile_of_none h.isBlank
  obtain ⟨c, rest, hcs, hc⟩ := h.exists_digit
  have hunset : Task.unsetDate = "0001-01-01" := rfl
  rw [Coercion.moment, ofText, htrim]
  rw [Task.date, hunset] at hread
  by_cases hzero : "0001-01-01".toList.isPrefixOf text.toList = true
  · rw [if_pos hzero] at hread
    cases hread
    rw [if_pos (by rw [hzero, Bool.or_true])]
    rfl
  · rw [if_neg hzero] at hread
    obtain ⟨s, hs, rfl⟩ := Schema.Checked.map_eq_valid_iff.1 hread
    have hfilled : text.toList.isEmpty = false := by
      rw [hcs]
      rfl
    rw [if_neg (by rw [hfilled, Bool.false_or]; exact hzero), hcs, relative?_of_isDigit hc, ← hcs,
      read?_of_serviceText h (Schema.Timestamp.timestamp_text_eq_valid_iff.1 hs)]

end Filter.Moment

/-! ## Conditions -/

namespace Filter.Evaluation

variable {now : Stamp} {f : Field} {d d' : Datum}

/-- Whether a value of a field satisfies a condition on it. -/
def answer (now : Stamp) (c : Condition) (d : Datum) : Bool :=
  satisfies now [(c.field.taskKey, d)] c

/-- A condition sees its own field only. -/
theorem satisfies_eq_answer {task : Fields} {c : Condition}
    (h : Fields.get? task c.field.taskKey = some d) : satisfies now task c = answer now c d := by
  have hhas : Fields.has task c.field.taskKey = true :=
    List.any_eq_true.2 ⟨_, mem_of_lookup h, beq_self_eq_true _⟩
  have hsingle : Fields.get? [(c.field.taskKey, d)] c.field.taskKey = some d := by
    simp [Fields.get?]
  have hhas' : Fields.has [(c.field.taskKey, d)] c.field.taskKey = true := by
    simp [Fields.has]
  rw [answer, satisfies, satisfies, taskValue?, taskValue?, h, hsingle]
  simp only [compareValue, hhas, hhas', Option.some_or]

/-- Whether no condition on a field can tell two values apart. -/
def Alike (now : Stamp) (f : Field) (d d' : Datum) : Prop :=
  ∀ op value, answer now ⟨f, op, value⟩ d = answer now ⟨f, op, value⟩ d'

theorem Alike.refl (d : Datum) : Alike now f d d := fun _ _ => rfl

theorem taskValue?_single (f : Field) (d : Datum) :
    taskValue? [(f.taskKey, d)] f = if d.isNull then none else some d := by
  simp only [taskValue?, Fields.get?, List.lookup_cons_self, Option.some_or, Option.filter_some]
  cases d.isNull <;> rfl

/-- Values that are compared alike cannot be told apart. -/
theorem alike_of_compareValue (hd : d.isNull = false) (hd' : d'.isNull = false)
    (h : ∀ op value, compareValue now [(f.taskKey, d)] ⟨f, op, value⟩ d =
      compareValue now [(f.taskKey, d')] ⟨f, op, value⟩ d') : Alike now f d d' := by
  intro op value
  rw [answer, answer, satisfies, satisfies, taskValue?_single, taskValue?_single, hd, hd']
  simp only [Bool.false_eq_true, if_false, h op value]

theorem alike_of_number (hd : d.isNull = false) (hd' : d'.isNull = false)
    (h : Coercion.number d = Coercion.number d') : Alike now .percentDone d d' := by
  refine alike_of_compareValue hd hd' fun op value => ?_
  show comparePercent true op d value = comparePercent true op d' value
  rw [comparePercent, comparePercent, Coercion.taskPercent, Coercion.taskPercent, h]

theorem alike_of_moment (hkind : f.kind = .date) (hd : d.isNull = false) (hd' : d'.isNull = false)
    (h : Coercion.moment now d = Coercion.moment now d') : Alike now f d d' := by
  refine alike_of_compareValue hd hd' fun op value => ?_
  simp only [compareValue, hkind, compareDate, placeOf, h]

/-- A value without a moment is as good as none. -/
theorem alike_null (hkind : f.kind = .date) (h : Coercion.moment now d = .ok none) :
    Alike now f d .null := by
  intro op value
  have hcompare (task : Fields) : compareValue now task ⟨f, op, value⟩ d = .ok false := by
    simp only [compareValue, hkind, compareDate, placeOf, h]
    rfl
  rw [answer, answer, satisfies, satisfies, taskValue?_single, taskValue?_single]
  by_cases hnull : d.isNull = true
  · rw [hnull]
    rfl
  · rw [if_neg hnull]
    dsimp only
    rw [hcompare]
    rfl

theorem alike_of_ids (hkind : f.kind = .array) (hd : d.isNull = false) (hd' : d'.isNull = false)
    (h : Coercion.ids (Coercion.items d) = Coercion.ids (Coercion.items d')) :
    Alike now f d d' := by
  refine alike_of_compareValue hd hd' fun op value => ?_
  simp only [compareValue, hkind, compareIds, h]

/-- Two payloads with values that cannot be told apart match the same expressions. -/
theorem matches_congr {task task' : Fields}
    (h : ∀ f : Field, ∃ d d', Fields.get? task f.taskKey = some d ∧
      Fields.get? task' f.taskKey = some d' ∧ Alike now f d d') (e : Expr) :
    e.matches now task = e.matches now task' := by
  induction e with
  | leaf c =>
    obtain ⟨d, d', hd, hd', halike⟩ := h c.field
    rw [Expr.matches, Expr.matches, satisfies_eq_answer hd, satisfies_eq_answer hd']
    exact halike c.operator c.value
  | node combinator l r ihl ihr =>
    cases combinator with
    | and => rw [Expr.matches, Expr.matches, ihl, ihr]
    | or => rw [Expr.matches, Expr.matches, ihl, ihr]

end Filter.Evaluation

/-! ## Payloads -/

/-- A date as the service sends it: null, or a date with a time and an offset. Its date for no date
is one of these. -/
inductive Datum.IsServiceDate : Datum → Prop
  | null : IsServiceDate .null
  | text {s : String} (written : Calendar.Iso.ServiceText s.toList) : IsServiceDate (.text s)

/-- Whether a value is a list of records with integers as their ids. -/
def Datum.IsServiceList (d : Datum) : Prop :=
  ∃ items, d = .list items ∧
    ∀ item ∈ items, ∃ fs n, item = .record fs ∧ Fields.get? fs "id" = some (.int n)

namespace Task

open Schema
open Calendar.Iso (Pair DateText FractionText ClockText OffsetText ServiceText)
open Filter.Evaluation (Alike)

/-- A payload in which every field that filters know has the type that the service uses. -/
structure IsServicePayload (fs : Fields) : Prop where
  done : ∃ b, Fields.get? fs "done" = some (.bool b)
  priority : ∃ n, Fields.get? fs "priority" = some (.int n)
  percentDone : ∃ d, Fields.get? fs "percent_done" = some d ∧
    ((∃ n, d = .int n) ∨ ∃ x, d = .num x)
  title : ∃ s, Fields.get? fs "title" = some (.text s)
  description : ∃ s, Fields.get? fs "description" = some (.text s)
  dates : ∀ key ∈ ["due_date", "created", "updated"], ∃ d, Fields.get? fs key = some d ∧
    d.IsServiceDate
  lists : ∀ key ∈ ["labels", "assignees"], ∃ d, Fields.get? fs key = some d ∧ d.IsServiceList

variable {fs : Fields} {t : Task} {now : Calendar.Stamp}

theorem alike_date {f : Filter.Field} (hkind : f.kind = .date) {d : Datum} (hd : d.IsServiceDate)
    {o : Option Calendar.Stamp} (hread : date d = .valid o) :
    Alike now f d (.ofOption .stamp o) := by
  cases hd with
  | null =>
    cases hread
    exact .refl _
  | text written =>
    have hmoment := Filter.Moment.moment_of_date written hread now
    cases o with
    | none => exact Filter.Evaluation.alike_null hkind hmoment
    | some s => exact Filter.Evaluation.alike_of_moment hkind rfl rfl hmoment

/-- The ids of a list are those of the items that were read from it. -/
theorem ids_eq_of_list {α : Type} {read : Fields → Checked α} {write : α → Fields} {idOf : α → Int}
    (hread : ∀ {gs a}, read gs = .valid a → required gs "id" integer = .valid (idOf a))
    (hwrite : ∀ a, Fields.get? (write a) "id" = some (.int (idOf a))) {d : Datum} {xs : List α}
    (hd : d.IsServiceList) (h : listOrNull (record read) d = .valid xs) :
    Filter.Coercion.ids (Filter.Coercion.items d) =
      Filter.Coercion.ids (Filter.Coercion.items (.list (xs.map fun x => .record (write x)))) := by
  obtain ⟨items, rfl, hitems⟩ := hd
  have hlist : list (record read) (.list items) = .valid xs := h
  obtain ⟨_, heq, hall⟩ := list_eq_valid_iff.1 hlist
  obtain rfl := Datum.list.inj heq
  have hsame : items.mapM Filter.Coercion.id =
      (xs.map fun x => Datum.record (write x)).mapM Filter.Coercion.id := by
    clear hlist h heq
    induction hall with
    | nil => rfl
    | @cons _ x _ _ hx _ ih =>
      obtain ⟨gs, n, rfl, hid⟩ := hitems _ List.mem_cons_self
      obtain ⟨_, hgs, hx⟩ := record_eq_valid_iff.1 hx
      obtain rfl := Datum.record.inj hgs
      obtain ⟨_, hget, hn⟩ := required_eq_valid_iff.1 (hread hx)
      rw [hid] at hget
      obtain rfl := Option.some.inj hget
      have hn : n = idOf x := Checked.valid.inj hn
      have hitem : Filter.Coercion.id (.record gs) = Filter.Coercion.id (.record (write x)) := by
        rw [Filter.Coercion.id, Filter.Coercion.id, hid, hwrite, hn]
      rw [List.map_cons, List.mapM_cons, List.mapM_cons, hitem,
        ih fun item hmem => hitems item (List.mem_cons_of_mem _ hmem)]
  rw [Filter.Coercion.ids, Filter.Coercion.ids, Filter.Coercion.items, Filter.Coercion.items, hsame]

/-- Every field of a payload is compared as the field of the task that is read from it. -/
theorem ReadFrom.alike (h : ReadFrom fs t) (payload : IsServicePayload fs)
    (f : Filter.Field) :
    ∃ d d', Fields.get? fs f.taskKey = some d ∧ Fields.get? t.toFields f.taskKey = some d' ∧
      Alike now f d d' := by
  cases f with
  | done =>
    obtain ⟨b, hget⟩ := payload.done
    obtain rfl : b = t.done := Checked.valid.inj (optional_of_some hget h.done)
    exact ⟨_, _, hget, rfl, .refl _⟩
  | priority =>
    obtain ⟨n, hget⟩ := payload.priority
    obtain rfl : n = t.priority := eq_of_integerWithin (optional_of_some hget h.priority)
    exact ⟨_, _, hget, rfl, .refl _⟩
  | percentDone =>
    obtain ⟨d, hget, hd⟩ := payload.percentDone
    refine ⟨d, _, hget, rfl, ?_⟩
    have hread := optional_of_some hget h.percentDone
    rcases hd with ⟨n, rfl⟩ | ⟨x, rfl⟩
    · have hn := number_int_eq_valid_iff.1 hread
      exact Filter.Evaluation.alike_of_number rfl rfl (by simp only [Filter.Coercion.number, hn])
    · obtain rfl : x = t.percentDone := Checked.valid.inj hread
      exact .refl _
  | dueDate =>
    obtain ⟨d, hget, hd⟩ := payload.dates "due_date" (by simp)
    exact ⟨d, _, hget, rfl, alike_date rfl hd (optional_of_some hget h.dueDate)⟩
  | created =>
    obtain ⟨d, hget, hd⟩ := payload.dates "created" (by simp)
    exact ⟨d, _, hget, rfl, alike_date rfl hd (optional_of_some hget h.created)⟩
  | updated =>
    obtain ⟨d, hget, hd⟩ := payload.dates "updated" (by simp)
    exact ⟨d, _, hget, rfl, alike_date rfl hd (optional_of_some hget h.updated)⟩
  | title =>
    obtain ⟨s, hget⟩ := payload.title
    obtain rfl : s = t.title := Checked.valid.inj (optional_of_some hget h.title)
    exact ⟨_, _, hget, rfl, .refl _⟩
  | description =>
    obtain ⟨s, hget⟩ := payload.description
    obtain rfl : s = t.description := Checked.valid.inj (optional_of_some hget h.description)
    exact ⟨_, _, hget, rfl, .refl _⟩
  | labels =>
    obtain ⟨d, hget, hd⟩ := payload.lists "labels" (by simp)
    refine ⟨d, _, hget, rfl, Filter.Evaluation.alike_of_ids rfl ?_ rfl ?_⟩
    · obtain ⟨items, rfl, -⟩ := hd
      rfl
    · exact ids_eq_of_list (fun hl => (Label.ofFields_eq_valid_iff.1 hl).1) (fun l => rfl) hd
        (optional_of_some hget h.labels)
  | assignees =>
    obtain ⟨d, hget, hd⟩ := payload.lists "assignees" (by simp)
    refine ⟨d, _, hget, rfl, Filter.Evaluation.alike_of_ids rfl ?_ rfl ?_⟩
    · obtain ⟨items, rfl, -⟩ := hd
      rfl
    · exact ids_eq_of_list (fun hp => (Person.ofFields_eq_valid_iff.1 hp).1) (fun p => rfl) hd
        (optional_of_some hget h.assignees)

/-- Filtering a payload of the service gives the same answer as filtering the task that is read from
it, for every expression and at every time. -/
theorem matches_payload (h : ofFields fs = .valid t) (payload : IsServicePayload fs)
    (now : Calendar.Stamp) (e : Filter.Expr) : e.matches now fs = e.matches now t.toFields :=
  Filter.Evaluation.matches_congr (fun f => (ofFields_eq_valid_iff.1 h).alike payload f) e

/-- A task that is due on an evening west of Greenwich is due on the next day in universal time,
whether it was read before or not. -/
theorem matches_payload_of_evening : ∃ fs t, ofFields fs = .valid t ∧ IsServicePayload fs ∧
    ∀ D ∈ ["2024-05-15", "2024-05-16"],
      let e : Filter.Expr := .node .and (.leaf ⟨.dueDate, .eq, .one (.text D)⟩)
        (.node .and (.leaf ⟨.percentDone, .ge, .one (.int 50)⟩)
          (.leaf ⟨.labels, .isIn, .many [.int 7]⟩))
      e.matches (.ofDay 738000 (some 0)) fs = (D == "2024-05-16") ∧
        e.matches (.ofDay 738000 (some 0)) t.toFields = (D == "2024-05-16") := by
  have pair (c d : Char) (h : (c.isDigit && d.isDigit) = true) :
      Pair (Text.digitsValue [c, d]) [c, d] := ⟨rfl, by simpa using h, rfl⟩
  have today : DateText ⟨2024, 5, 15⟩ "2024-05-15".toList :=
    .mk (y := "2024".toList) (m := "05".toList) (d := "15".toList) rfl rfl rfl
      (List.all_eq_true.1 (by decide))
  have five : ∀ c ∈ ['5'], c.isDigit = true := List.all_eq_true.1 (by decide)
  have half : FractionText 500000 ".5".toList := .digits (List.cons_ne_nil _ _) (by decide) five
  have late : ClockText ⟨23, 30, 0, 500000, false⟩ "23:30:00.5".toList :=
    .mk (pair '2' '3' rfl) (pair '3' '0' rfl) (pair '0' '0' rfl) half
  have west : OffsetText true 5 0 "-05:00".toList :=
    .mk (.inr rfl) (pair '0' '5' rfl) (pair '0' '0' rfl)
  have evening : ServiceText "2024-05-15T23:30:00.5-05:00".toList := .away today late west
  have first : DateText ⟨1, 1, 1⟩ "0001-01-01".toList :=
    .mk (y := "0001".toList) (m := "01".toList) (d := "01".toList) rfl rfl rfl
      (List.all_eq_true.1 (by decide))
  have midnight : ClockText ⟨0, 0, 0, 0, false⟩ "00:00:00".toList :=
    .mk (f := []) (pair '0' '0' rfl) (pair '0' '0' rfl) (pair '0' '0' rfl) .whole
  have unset : ServiceText "0001-01-01T00:00:00Z".toList := .universal first midnight
  obtain ⟨fs, hfs⟩ : ∃ fs : Fields, fs = [("id", .int 4), ("title", .text "write"),
    ("description", .text ""), ("done", .bool false), ("priority", .int 3),
    ("percent_done", .num (1 / 2)), ("due_date", .text "2024-05-15T23:30:00.5-05:00"),
    ("created", .text "0001-01-01T00:00:00Z"), ("updated", .null),
    ("labels", .list [.record [("id", .int 7), ("hex_color", .text "e8e8e8")]]),
    ("assignees", .list []), ("position", .num 65536)] := ⟨_, rfl⟩
  have payload : IsServicePayload fs := by
    subst hfs
    exact {
      done := ⟨_, rfl⟩
      priority := ⟨_, rfl⟩
      percentDone := ⟨_, rfl, .inr ⟨_, rfl⟩⟩
      title := ⟨_, rfl⟩
      description := ⟨_, rfl⟩
      dates := by
        simp only [List.forall_mem_cons]
        exact ⟨⟨_, rfl, .text evening⟩, ⟨_, rfl, .text unset⟩, ⟨_, rfl, .null⟩, by simp⟩
      lists := by
        simp only [List.forall_mem_cons]
        exact ⟨⟨_, rfl, _, rfl, by simp [Fields.get?]⟩, ⟨_, rfl, _, rfl, by simp⟩, by simp⟩ }
  have accepted : (ofFields fs).value?.isSome = true := by
    subst hfs
    decide +kernel
  obtain ⟨t, ht⟩ := Option.isSome_iff_exists.1 accepted
  have read := Checked.value?_eq_some_iff.1 ht
  refine ⟨fs, t, read, payload, fun D hD => ?_⟩
  dsimp only
  rw [← matches_payload read payload]
  subst hfs
  simp only [List.mem_cons, List.not_mem_nil, or_false] at hD
  rcases hD with rfl | rfl
  · decide +kernel
  · decide +kernel

end Task

end TaskSieve
