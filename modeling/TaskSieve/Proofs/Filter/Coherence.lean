import TaskSieve.Proofs.Filter.Scale
import TaskSieve.Proofs.Number.Scaling

set_option autoImplicit false

/-! # Operators agree

What the operators say of one field of one task fits together. Without a value in the form of the
field all of them say no. With one, each operator and its opposite exclude each other as soon as the
filter value can be coerced, and numbers and moments stand in exactly one of three orders. -/

namespace TaskSieve.Filter

open TaskSieve.Calendar

namespace Evaluation

/-! ## Values that count -/

/-- The value that counts for a field in a task: the one under the key of payloads, or the one under
the name in filters if that key is absent. -/
def effective? (task : Fields) (f : Field) : Option Datum :=
  (Fields.get? task f.taskKey).or (Fields.get? task f.name)

variable {now : Stamp} {task : Fields} {c : Condition} {d : Datum} {f : Field}

theorem taskValue?_eq_some_iff :
    taskValue? task f = some d ↔ effective? task f = some d ∧ d ≠ .null := by
  have hnull : (!d.isNull) = true ↔ d ≠ .null := by cases d <;> simp [Datum.isNull]
  rw [taskValue?, Option.filter_eq_some_iff, hnull]
  rfl

theorem satisfies_of_none (h : taskValue? task c.field = none) : satisfies now task c = false := by
  rw [satisfies, h]

theorem satisfies_of_compareValue (h : taskValue? task c.field = some d) {b : Bool}
    (hc : compareValue now task c d = .ok b) : satisfies now task c = b := by
  rw [satisfies, h]
  dsimp only
  rw [hc]

theorem satisfies_of_ne_true (h : taskValue? task c.field = some d)
    (hc : compareValue now task c d ≠ .ok true) : satisfies now task c = false := by
  rw [satisfies, h]
  dsimp only
  split
  · next b heq =>
    cases b with
    | false => rfl
    | true => exact absurd heq hc
  · rfl

/-! ## Ids -/

theorem exists_ids_iff {ds : List Datum} :
    (∃ ids, Coercion.ids ds = .ok ids) ↔ ∀ d ∈ ds, ∃ i, Coercion.id d = .ok i := by
  rw [← exists_mapM_iff]
  exact exists_bind_ok_iff

theorem hasForm_array_iff : hasForm now .array d = .ok true ↔ ∃ i, Coercion.id d = .ok i := by
  unfold hasForm
  cases Coercion.id d <;> simp [Except.map]

/-- Sets of ids are compared once both come to an end: membership by a common id, and so equality
with a single id. -/
theorem exists_compareIds {actual : Datum} {l : Literal} {a w : List Coercion.Id}
    (ha : Coercion.ids (Coercion.items actual) = .ok a)
    (hw : Coercion.ids (l.values.map Scalar.toDatum) = .ok w) :
    compareIds .isIn actual l = .ok (meet a w) ∧ compareIds .notIn actual l = .ok (!meet a w) ∧
      ∃ b, (∀ v, l = .one v → b = meet a w) ∧ compareIds .eq actual l = .ok b ∧
        compareIds .ne actual l = .ok (!b) := by
  have compares {op : Operator} {b : Bool} (h : _) : compareIds op actual l = .ok b :=
    bind_eq_ok_iff.2 ⟨a, ha, bind_eq_ok_iff.2 ⟨w, hw, h⟩⟩
  refine ⟨compares rfl, compares rfl, _, ?_, compares rfl, compares rfl⟩
  rintro v rfl
  rfl

/-! ## Texts -/

/-- The text that a filter value is compared as, however many digits it has. -/
def plainText : Scalar → String
  | .bool b => if b then "true" else "false"
  | v => v.toDatum.asText

theorem taskText_eq_ok_iff {s : String} :
    Coercion.taskText d = .ok s ↔ d.overlong? = none ∧ d.asText = s := by
  unfold Coercion.taskText Datum.toText
  cases d.overlong? <;> simp [Overlong.guard, Except.mapError]

theorem text_eq_ok_iff {v : Scalar} {s : String} :
    Coercion.text v = .ok s ↔ v.toDatum.overlong? = none ∧ plainText v = s := by
  cases v with
  | bool b => exact ⟨fun h => ⟨rfl, Except.ok.inj h⟩, fun h => congrArg Except.ok h.2⟩
  | int _ | num _ | text _ => exact taskText_eq_ok_iff

theorem hasForm_string_iff : hasForm now .string d = .ok true ↔ d.overlong? = none := by
  unfold hasForm Coercion.taskText Datum.toText
  cases d.overlong? <;> simp [Overlong.guard, Except.mapError, Except.map]

theorem exists_hasForm_string_iff : (∃ b, hasForm now .string d = .ok b) ↔ d.overlong? = none := by
  unfold hasForm Coercion.taskText Datum.toText
  cases d.overlong? <;> simp [Overlong.guard, Except.mapError, Except.map]

/-- The text that a literal is compared as, however many digits are in it. -/
def plainLiteral : Literal → String
  | .one v => plainText v
  | .many vs => Coercion.parenthesized vs

/-- What an operator says of a text and a literal, however many digits are in the literal. -/
def comparesText (op : Operator) (actual : String) (l : Literal) : Bool :=
  match op with
  | .like =>
    match l with
    | .one v => occursIn (Text.lower (plainText v).toList) (Text.lower actual.toList)
    | .many _ => false
  | .isIn => (l.values.map plainText).contains actual
  | .notIn => !(l.values.map plainText).contains actual
  | .eq => actual == plainLiteral l
  | .ne => actual != plainLiteral l
  | _ => false

theorem literalText_eq_ok {l : Literal} (h : ∀ v ∈ l.values, v.toDatum.overlong? = none) :
    literalText l = .ok (plainLiteral l) := by
  cases l with
  | one v => exact text_eq_ok_iff.2 ⟨h v (List.mem_singleton_self v), rfl⟩
  | many vs =>
    have hitems : Datum.overlongItems? (vs.map Scalar.toDatum) = none :=
      Datum.overlongItems?_eq_none_iff.2 fun d hd => by
        obtain ⟨v, hv, rfl⟩ := List.mem_map.1 hd
        exact h v hv
    rw [literalText, Coercion.listText, hitems]
    rfl

/-- A value that can be written is compared by its text with a literal whose values can be. -/
theorem compareText_eq_ok {l : Literal} (hd : d.overlong? = none)
    (hl : ∀ v ∈ l.values, v.toDatum.overlong? = none) (op : Operator) :
    compareText op d l = .ok (comparesText op d.asText l) := by
  have texts : l.values.mapM Coercion.text = .ok (l.values.map plainText) := by
    rw [mapM_eq_ok_iff, List.map_map]
    exact List.map_congr_left fun v hv => text_eq_ok_iff.2 ⟨hl v hv, rfl⟩
  refine bind_eq_ok_iff.2 ⟨_, taskText_eq_ok_iff.2 ⟨hd, rfl⟩, ?_⟩
  cases op with
  | like =>
    cases l with
    | one v =>
      have hv := text_eq_ok_iff.2 ⟨hl v (List.mem_singleton_self v), rfl⟩
      exact bind_eq_ok_iff.2 ⟨_, hv, rfl⟩
    | many vs => rfl
  | isIn | notIn => exact bind_eq_ok_iff.2 ⟨_, texts, rfl⟩
  | eq | ne => exact bind_eq_ok_iff.2 ⟨_, literalText_eq_ok hl, rfl⟩
  | gt | ge | lt | le => rfl

/-! ## Forms of task values and literals -/

/-- Whether the value of a task has the form of a kind. Of a set of ids every item has to come to an
end; one that is no id does not count. -/
def TaskForm (now : Stamp) (k : Kind) (d : Datum) : Prop :=
  match k with
  | .array => ∀ i ∈ Coercion.items d, hasForm now .array i = .ok true
  | _ => hasForm now k d = .ok true

/-- Whether a literal has the form of a kind. Only texts and ids are compared with lists. -/
def LiteralForm (now : Stamp) (k : Kind) : Literal → Prop
  | .one v => hasForm now k v.toDatum = .ok true
  | .many vs => (k = .string ∨ k = .array) ∧ ∀ v ∈ vs, hasForm now k v.toDatum = .ok true

/-- Whether the coercion of every value of a literal comes to an end. -/
def Harmless (now : Stamp) (k : Kind) (l : Literal) : Prop :=
  ∀ v ∈ l.values, ∃ b, hasForm now k v.toDatum = .ok b

/-- Whether a value is a date that stands for none, in any of its spellings. -/
def IsZeroDate : Datum → Prop
  | .text s => "0001-01-01".toList.isPrefixOf (Text.trim s.toList) = true
  | .stamp s => s.date.year = 1
  | .day n => (Stamp.ofDay n none).date.year = 1
  | _ => False

theorem not_hasForm_of_isZeroDate (h : IsZeroDate d) : hasForm now .date d ≠ .ok true := by
  have hmoment : Coercion.moment now d = .ok none := by
    cases d with
    | text s =>
      have hstart : "0001-01-01".toList.isPrefixOf (Text.trim s.toList) = true := h
      rw [Coercion.moment, Moment.ofText, if_pos (by rw [hstart, Bool.or_true])]
    | stamp s => exact congrArg Except.ok (if_pos h)
    | day n => exact congrArg Except.ok (if_pos h)
    | null | bool _ | int _ | num _ | list _ | record _ => exact h.elim
  rw [hasForm, hmoment]
  simp [Except.map]

/-- A kind has a scale, or its values are texts or ids. -/
theorem exists_of? (now : Stamp) (task : Fields) (f : Field) (days : Bool) :
    (∃ s, Scale.of? now task f days = some s ∧ f.kind ≠ .string ∧ f.kind ≠ .array) ∨
      f.kind = .string ∨ f.kind = .array := by
  unfold Scale.of?
  cases hkind : f.kind <;> simp

/-! ## Coherence -/

/-- Whether a task satisfies the condition with an operator. -/
def answers (now : Stamp) (task : Fields) (f : Field) (l : Literal) (op : Operator) : Bool :=
  (Expr.leaf ⟨f, op, l⟩).matches now task

/-- A field of a task stands in exactly one order to a literal. -/
structure Ordered (now : Stamp) (task : Fields) (f : Field) (l : Literal) : Prop where
  once : ([.lt, .eq, .gt].map (answers now task f l)).count true = 1
  le : answers now task f l .le = !answers now task f l .gt
  ge : answers now task f l .ge = !answers now task f l .lt

/-- What the operators say of a field of a task fits together. -/
structure Coherent (now : Stamp) (task : Fields) (f : Field) (l : Literal) : Prop where
  /-- No operator holds of a field that is absent under both its keys. -/
  absent : Fields.get? task f.taskKey = none → Fields.get? task f.name = none →
    ∀ op, answers now task f l op = false
  /-- No operator holds of null. -/
  null : effective? task f = some .null → ∀ op, answers now task f l op = false
  /-- No operator holds of a value without the form of a field of truth values, numbers or dates. -/
  formless : ∀ d, effective? task f = some d → f.kind ≠ .string → f.kind ≠ .array →
    ¬ TaskForm now f.kind d → ∀ op, answers now task f l op = false
  /-- No operator holds of a date that stands for none. -/
  zeroDate : ∀ d, effective? task f = some d → f.kind = .date → IsZeroDate d →
    ∀ op, answers now task f l op = false
  /-- Membership and exclusion are opposites. -/
  membership : ∀ d, effective? task f = some d → d ≠ .null → TaskForm now f.kind d →
    Harmless now f.kind l → answers now task f l .isIn = !answers now task f l .notIn
  /-- Equality and difference are opposites. -/
  equality : ∀ d, effective? task f = some d → d ≠ .null → TaskForm now f.kind d →
    LiteralForm now f.kind l → answers now task f l .eq = !answers now task f l .ne
  /-- Numbers stand in exactly one order. -/
  numbers : ∀ d v x y, effective? task f = some d → f.kind = .number → l = .one v →
    Coercion.number d = .ok (some x) → x ≠ .nan →
    Coercion.number v.toDatum = .ok (some y) → y ≠ .nan → Ordered now task f l
  /-- Moments stand in exactly one order. -/
  dates : ∀ d v, effective? task f = some d → f.kind = .date → l = .one v →
    hasForm now .date d = .ok true → hasForm now .date v.toDatum = .ok true → Ordered now task f l

/-! ## Values on a scale -/

section

variable {now : Stamp} {task : Fields} {f : Field} {l : Literal} {d : Datum} {s : Scale}

/-- What a condition on a field with a scale answers is what the scale says. -/
theorem answers_of_compares (hd : taskValue? task f = some d)
    (hs : Scale.of? now task f (asksDays l) = some s) {op : Operator} {b : Bool}
    (h : s.compares op d l = .ok b) : answers now task f l op = b :=
  satisfies_of_compareValue (c := ⟨f, op, l⟩) hd ((Scale.compareValue_eq hs d).trans h)

theorem taskForm_iff_hasForm {k : Kind} (h : k ≠ .array) :
    TaskForm now k d ↔ hasForm now k d = .ok true := by
  cases k <;> first | exact Iff.rfl | exact absurd rfl h

/-- On a scale membership and exclusion are opposites. -/
theorem membership_of_scale (hd : taskValue? task f = some d)
    (hs : Scale.of? now task f (asksDays l) = some s) (hform : hasForm now f.kind d = .ok true)
    (hl : Harmless now f.kind l) : answers now task f l .isIn = !answers now task f l .notIn := by
  obtain ⟨a, ha⟩ := ((Scale.measures_of_of? hs).actual d).1 hform
  have hwanted : ∀ v ∈ l.values, ∃ t, s.wanted v = .ok t :=
    fun v hv => ((Scale.measures_of_of? hs).ends v).1 (hl v hv)
  rw [answers_of_compares hd hs (Scale.compares_isIn ha hwanted),
    answers_of_compares hd hs (Scale.compares_notIn ha hwanted), Bool.not_not]

/-- Single values with points on a scale are answered by the order of the points. -/
theorem exists_answers_of_scale {v : Scalar} (hd : taskValue? task f = some d)
    (hs : Scale.of? now task f (asksDays (.one v)) = some s)
    (hform : hasForm now f.kind d = .ok true) (hv : hasForm now f.kind v.toDatum = .ok true) :
    ∃ a t, s.actual d = .ok (some a) ∧ s.wanted v = .ok (some t) ∧
      ∀ op : Operator, op.isMembership = false →
        answers now task f (.one v) op = holds op (s.order a t) := by
  obtain ⟨a, ha⟩ := ((Scale.measures_of_of? hs).actual d).1 hform
  obtain ⟨t, ht⟩ := ((Scale.measures_of_of? hs).wanted v).1 hv
  exact ⟨a, t, ha, ht, fun op hop => answers_of_compares hd hs (Scale.compares_one ha ht hop)⟩

/-- Points that have an order stand in exactly one. -/
theorem ordered_of_scale {v : Scalar} {o : Option Ordering}
    (h : ∀ op : Operator, op.isMembership = false → answers now task f (.one v) op = holds op o)
    (ho : o ≠ none) : Ordered now task f (.one v) := by
  obtain ⟨o, rfl⟩ := Option.ne_none_iff_exists'.1 ho
  constructor
  · rw [List.map_cons, List.map_cons, List.map_cons, List.map_nil, h .lt rfl, h .eq rfl, h .gt rfl]
    cases o <;> rfl
  · rw [h .le rfl, h .gt rfl]
    cases o <;> rfl
  · rw [h .ge rfl, h .lt rfl]
    cases o <;> rfl

/-! ## Percentages are numbers -/

theorem roundPercent_ne_nan {x : Binary64} (h : x ≠ .nan) (p : Prop) [Decidable p] :
    Coercion.roundPercent (if p then x * 100 else x) ≠ .nan := by
  refine Binary64.roundPlaces_ne_nan ?_ 6
  split
  · exact Binary64.mul_hundred_ne_nan h
  · exact h

/-- Numbers have an order on the scale of a number field. -/
theorem order_ne_none_of_numbers {days : Bool} (hs : Scale.of? now task f days = some s)
    (hkind : f.kind = .number) {v : Scalar} {x y : Binary64}
    (hx : Coercion.number d = .ok (some x)) (hxnan : x ≠ .nan)
    (hy : Coercion.number v.toDatum = .ok (some y)) (hynan : y ≠ .nan) {a t : s.Point}
    (ha : s.actual d = .ok (some a)) (ht : s.wanted v = .ok (some t)) : s.order a t ≠ none := by
  have order_ne_none {p q : Binary64} (hp : p ≠ .nan) (hq : q ≠ .nan) :
      Binary64.compare? p q ≠ none := by
    obtain ⟨o, ho⟩ := Binary64.exists_compare? hp hq
    simp [ho]
  rcases Scale.of?_cases hs with ⟨hother, -⟩ | ⟨-, rfl | ⟨isFraction, rfl⟩⟩ | ⟨hother, -⟩
  · simp [hkind] at hother
  · cases hx.symm.trans ha
    cases hy.symm.trans ht
    exact order_ne_none hxnan hynan
  · obtain ⟨_, hx', hpercent⟩ := bind_eq_ok_iff.1 ha
    obtain ⟨_, hy', hpercent'⟩ := bind_eq_ok_iff.1 ht
    cases hx.symm.trans hx'
    cases hy.symm.trans hy'
    cases hpercent
    cases hpercent'
    exact order_ne_none (roundPercent_ne_nan hxnan _) (roundPercent_ne_nan hynan _)
  · simp [hkind] at hother

end

/-! ## All fields -/

section

variable {now : Stamp} {task : Fields} {f : Field} {l : Literal} {d : Datum}

theorem answers_of_null (h : effective? task f = some .null) (op : Operator) :
    answers now task f l op = false := by
  refine satisfies_of_none (c := ⟨f, op, l⟩) ?_
  have heffective : (Fields.get? task f.taskKey).or (Fields.get? task f.name) = some .null := h
  rw [taskValue?, heffective]
  rfl

/-- A value without the form of its field satisfies nothing. -/
theorem answers_of_formless (h : effective? task f = some d) (hstring : f.kind ≠ .string)
    (harray : f.kind ≠ .array) (hform : hasForm now f.kind d ≠ .ok true) (op : Operator) :
    answers now task f l op = false := by
  by_cases hnull : d = .null
  · rw [hnull] at h
    exact answers_of_null h op
  rcases exists_of? now task f (asksDays l) with ⟨s, hs, -⟩ | hkind | hkind
  · refine satisfies_of_ne_true (c := ⟨f, op, l⟩) (taskValue?_eq_some_iff.2 ⟨h, hnull⟩) ?_
    rw [Scale.compareValue_eq hs]
    refine Scale.compares_ne_true (fun a ha => ?_) op l
    exact hform (((Scale.measures_of_of? hs).actual d).2 ⟨a, ha⟩)
  · exact absurd hkind hstring
  · exact absurd hkind harray

/-- Texts are compared as they are written. -/
theorem answers_of_string (hd : taskValue? task f = some d) (hkind : f.kind = .string)
    (hwritten : d.overlong? = none) (hl : ∀ v ∈ l.values, v.toDatum.overlong? = none)
    (op : Operator) : answers now task f l op = comparesText op d.asText l := by
  refine satisfies_of_compareValue (c := ⟨f, op, l⟩) hd ?_
  rw [compareValue, hkind]
  exact compareText_eq_ok hwritten hl op

/-- A value that cannot be written as a text satisfies nothing. -/
theorem answers_of_unwritten (hd : taskValue? task f = some d) (hkind : f.kind = .string)
    (hwritten : d.overlong? ≠ none) (op : Operator) : answers now task f l op = false := by
  refine satisfies_of_ne_true (c := ⟨f, op, l⟩) hd ?_
  rw [compareValue, hkind]
  intro htrue
  obtain ⟨_, ha, -⟩ := bind_eq_ok_iff.1 htrue
  exact hwritten (taskText_eq_ok_iff.1 ha).1

/-- Ids are compared as sets. -/
theorem answers_of_array (hd : taskValue? task f = some d) (hkind : f.kind = .array)
    {op : Operator} {b : Bool} (h : compareIds op d l = .ok b) : answers now task f l op = b := by
  refine satisfies_of_compareValue (c := ⟨f, op, l⟩) hd ?_
  rw [compareValue, hkind]
  exact h

/-- Ids of a task and of a literal that all come to an end are compared under every operator. -/
theorem opposites_of_array (hd : taskValue? task f = some d) (hkind : f.kind = .array)
    (hform : TaskForm now .array d) (hl : ∀ v ∈ l.values, hasForm now .array v.toDatum = .ok true) :
    answers now task f l .isIn = (!answers now task f l .notIn) ∧
      answers now task f l .eq = !answers now task f l .ne := by
  obtain ⟨a, ha⟩ := exists_ids_iff.2 fun i hi => hasForm_array_iff.1 (hform i hi)
  have hwanted : ∀ w ∈ l.values.map Scalar.toDatum, ∃ i, Coercion.id w = .ok i := by
    intro w hw
    obtain ⟨v, hv, rfl⟩ := List.mem_map.1 hw
    exact hasForm_array_iff.1 (hl v hv)
  obtain ⟨w, hw⟩ := exists_ids_iff.2 hwanted
  obtain ⟨hin, hnotIn, b, -, heq, hne⟩ := exists_compareIds ha hw
  rw [answers_of_array hd hkind hin, answers_of_array hd hkind hnotIn,
    answers_of_array hd hkind heq, answers_of_array hd hkind hne, Bool.not_not, Bool.not_not]
  exact ⟨rfl, rfl⟩

/-- Whatever its kind, a value in the form of its field is in a list or not. -/
theorem isIn_eq_not_notIn (hd : taskValue? task f = some d) (hform : TaskForm now f.kind d)
    (hl : Harmless now f.kind l) : answers now task f l .isIn = !answers now task f l .notIn := by
  rcases exists_of? now task f (asksDays l) with ⟨s, hs, -, harray⟩ | hkind | hkind
  · exact membership_of_scale hd hs ((taskForm_iff_hasForm harray).1 hform) hl
  · rw [hkind] at hform hl
    have written := hasForm_string_iff.1 hform
    have texts (v) (hv : v ∈ l.values) := exists_hasForm_string_iff.1 (hl v hv)
    rw [answers_of_string hd hkind written texts, answers_of_string hd hkind written texts]
    exact (Bool.not_not _).symm
  · rw [hkind] at hform
    refine (opposites_of_array hd hkind hform fun v hv => ?_).1
    obtain ⟨b, hb⟩ := hl v hv
    rw [hkind] at hb
    exact hasForm_array_iff.2 (exists_map_eq_ok_iff.1 ⟨b, hb⟩)

/-- Whatever its kind, a value in the form of its field is equal to another one or different. -/
theorem eq_eq_not_ne (hd : taskValue? task f = some d) (hform : TaskForm now f.kind d)
    (hl : LiteralForm now f.kind l) : answers now task f l .eq = !answers now task f l .ne := by
  rcases exists_of? now task f (asksDays l) with ⟨s, hs, hstring, harray⟩ | hkind | hkind
  · cases l with
    | many vs =>
      -- a list has no place on a scale
      exact absurd hl.1 (by simp [hstring, harray])
    | one v =>
      obtain ⟨a, t, -, -, hanswers⟩ :=
        exists_answers_of_scale hd hs ((taskForm_iff_hasForm harray).1 hform) hl
      rw [hanswers .eq rfl, hanswers .ne rfl]
      exact (Bool.not_not _).symm
  · rw [hkind] at hform hl
    have written := hasForm_string_iff.1 hform
    have texts : ∀ v ∈ l.values, v.toDatum.overlong? = none := by
      cases l with
      | one v => exact fun u hu => List.mem_singleton.1 hu ▸ hasForm_string_iff.1 hl
      | many vs => exact fun u hu => hasForm_string_iff.1 (hl.2 u hu)
    rw [answers_of_string hd hkind written texts, answers_of_string hd hkind written texts]
    exact (Bool.not_not _).symm
  · rw [hkind] at hform hl
    refine (opposites_of_array hd hkind hform ?_).2
    cases l with
    | one v => exact fun u hu => List.mem_singleton.1 hu ▸ hl
    | many vs => exact hl.2

theorem ordered_of_numbers {v : Scalar} {x y : Binary64} (hd : taskValue? task f = some d)
    (hkind : f.kind = .number) (hx : Coercion.number d = .ok (some x)) (hxnan : x ≠ .nan)
    (hy : Coercion.number v.toDatum = .ok (some y)) (hynan : y ≠ .nan) :
    Ordered now task f (.one v) := by
  have hform : hasForm now f.kind d = .ok true := hkind ▸ map_isSome_eq_ok_true_iff.2 ⟨x, hx⟩
  have hv : hasForm now f.kind v.toDatum = .ok true :=
    hkind ▸ map_isSome_eq_ok_true_iff.2 ⟨y, hy⟩
  rcases exists_of? now task f (asksDays (.one v)) with ⟨s, hs, -⟩ | hother | hother
  · obtain ⟨a, t, ha, ht, hanswers⟩ := exists_answers_of_scale hd hs hform hv
    exact ordered_of_scale hanswers (order_ne_none_of_numbers hs hkind hx hxnan hy hynan ha ht)
  · simp [hkind] at hother
  · simp [hkind] at hother

theorem ordered_of_dates {v : Scalar} (hd : taskValue? task f = some d) (hkind : f.kind = .date)
    (hform : hasForm now .date d = .ok true) (hv : hasForm now .date v.toDatum = .ok true) :
    Ordered now task f (.one v) := by
  rw [← hkind] at hform hv
  have hs : Scale.of? now task f (asksDays (.one v)) = some (.date now (asksDays (.one v))) := by
    rw [Scale.of?, hkind]
  obtain ⟨a, t, -, -, hanswers⟩ := exists_answers_of_scale hd hs hform hv
  exact ordered_of_scale hanswers (by simp [Scale.date])

end

/-- The operators agree on every field of every task, whatever they compare it with. -/
theorem coherent (now : Stamp) (task : Fields) (f : Field) (l : Literal) :
    Coherent now task f l where
  absent := by
    intro hkey hname op
    refine satisfies_of_none (c := ⟨f, op, l⟩) ?_
    simp [taskValue?, hkey, hname]
  null := answers_of_null
  formless := by
    intro d hd hstring harray hform
    rw [taskForm_iff_hasForm harray] at hform
    exact answers_of_formless hd hstring harray hform
  zeroDate := by
    intro d hd hkind hzero
    have hform : hasForm now f.kind d ≠ .ok true := hkind ▸ not_hasForm_of_isZeroDate hzero
    exact answers_of_formless hd (by simp [hkind]) (by simp [hkind]) hform
  membership := by
    intro d hd hnull hform hl
    exact isIn_eq_not_notIn (taskValue?_eq_some_iff.2 ⟨hd, hnull⟩) hform hl
  equality := by
    intro d hd hnull hform hl
    exact eq_eq_not_ne (taskValue?_eq_some_iff.2 ⟨hd, hnull⟩) hform hl
  numbers := by
    rintro d v x y hd hkind rfl hx hxnan hy hynan
    have hnull : d ≠ .null := by
      rintro rfl
      cases hx
    exact ordered_of_numbers (taskValue?_eq_some_iff.2 ⟨hd, hnull⟩) hkind hx hxnan hy hynan
  dates := by
    rintro d v hd hkind rfl hform hv
    have hnull : d ≠ .null := by
      rintro rfl
      cases hform
    exact ordered_of_dates (taskValue?_eq_some_iff.2 ⟨hd, hnull⟩) hkind hform hv

/-- A task that is half done and has no date to be done by: its percentage stands in one order to 50
percent, and no operator holds of its date. -/
theorem coherent_of_halfDone :
    let now := Stamp.ofDay 738000 none
    let task := [("percent_done", .num (.finite false 1 (-1))),
      ("due_date", .text "0001-01-01T00:00:00Z")]
    Ordered now task .percentDone (.one (.int 50)) ∧
      ∀ op, answers now task .dueDate (.one (.text "2024-05-15")) op = false := by
  intro now task
  have hfifty : Binary64.ofInt? 50 = some (.finite false 7036874417766400 (-47)) := by decide
  have hwanted : Coercion.number (Scalar.int 50).toDatum =
      .ok (some (.finite false 7036874417766400 (-47))) := by
    rw [Scalar.toDatum, Coercion.number, hfifty]
  have hzero : IsZeroDate (.text "0001-01-01T00:00:00Z") := by
    change "0001-01-01".toList.isPrefixOf (Text.trim "0001-01-01T00:00:00Z".toList) = true
    decide
  constructor
  · exact (coherent now task .percentDone (.one (.int 50))).numbers _ _ _ _ rfl rfl rfl rfl
      (by decide) hwanted (by decide)
  · exact (coherent now task .dueDate (.one (.text "2024-05-15"))).zeroDate _ rfl rfl hzero

end TaskSieve.Filter.Evaluation
