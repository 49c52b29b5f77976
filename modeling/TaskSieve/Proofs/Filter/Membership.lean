import TaskSieve.Proofs.Filter.Checking
import TaskSieve.Proofs.Filter.Coherence
import TaskSieve.Proofs.Filter.Grouping

set_option autoImplicit false

/-! # Membership item by item

To be in a list is to be equal to one of its items, and not to be in it is to differ from each of
them. Dates are the exception: one item that is a whole day turns the others into days as well, so a
list that mixes days and moments is compared by days. -/

namespace TaskSieve.Filter

open TaskSieve.Calendar

/-! ## Chains -/

namespace Expr

variable {now : Stamp} {task : Fields}

theorem matches_join_or (e : Expr) (cs : List Condition) :
    (e.join (cs.map fun c => (.or, c))).matches now task =
      (e.matches now task || cs.any fun c => (leaf c).matches now task) := by
  induction cs generalizing e with
  | nil => exact (Bool.or_false _).symm
  | cons c cs ih => exact (ih (.node .or e (.leaf c))).trans (Bool.or_assoc ..)

theorem matches_join_and (e : Expr) (cs : List Condition) :
    (e.join (cs.map fun c => (.and, c))).matches now task =
      (e.matches now task && cs.all fun c => (leaf c).matches now task) := by
  induction cs generalizing e with
  | nil => exact (Bool.and_true _).symm
  | cons c cs ih => exact (ih (.node .and e (.leaf c))).trans (Bool.and_assoc ..)

/-- The chain that asks whether a field is equal to one of some values. -/
def equalToAny (f : Field) (v : Scalar) (rest : List Scalar) : Expr :=
  (leaf ⟨f, .eq, .one v⟩).join ((rest.map fun u => ⟨f, .eq, .one u⟩).map fun c => (.or, c))

/-- The chain that asks whether a field differs from all of some values. -/
def differentFromAll (f : Field) (v : Scalar) (rest : List Scalar) : Expr :=
  (leaf ⟨f, .ne, .one v⟩).join ((rest.map fun u => ⟨f, .ne, .one u⟩).map fun c => (.and, c))

end Expr

namespace Evaluation

variable {now : Stamp} {task : Fields} {f : Field}

theorem matches_equalToAny (v : Scalar) (rest : List Scalar) :
    (Expr.equalToAny f v rest).matches now task =
      (v :: rest).any fun u => answers now task f (.one u) .eq := by
  rw [Expr.equalToAny, Expr.matches_join_or, List.any_map, List.any_cons]
  rfl

theorem matches_differentFromAll (v : Scalar) (rest : List Scalar) :
    (Expr.differentFromAll f v rest).matches now task =
      (v :: rest).all fun u => answers now task f (.one u) .ne := by
  rw [Expr.differentFromAll, Expr.matches_join_and, List.all_map, List.all_cons]
  rfl

/-- Membership in a list is equality with one of its items, and exclusion is difference from all. -/
structure ItemByItem (now : Stamp) (task : Fields) (f : Field) (vs : List Scalar) : Prop where
  isIn : answers now task f (.many vs) .isIn = vs.any fun v => answers now task f (.one v) .eq
  notIn : answers now task f (.many vs) .notIn = vs.all fun v => answers now task f (.one v) .ne

section

variable {vs : List Scalar}

/-- If nothing holds of a field, membership holds of no item either. -/
theorem itemByItem_of_false (hne : vs ≠ []) (h : ∀ l op, answers now task f l op = false) :
    ItemByItem now task f vs where
  isIn := by simp [h]
  notIn := by
    obtain ⟨v, rest, rfl⟩ := List.exists_cons_of_ne_nil hne
    simp [h]

/-- If a list and its items are compared by one test, membership is asked item by item. -/
theorem itemByItem_of_test {p : Scalar → Bool}
    (hisIn : answers now task f (.many vs) .isIn = vs.any p)
    (hnotIn : answers now task f (.many vs) .notIn = !vs.any p)
    (heq : ∀ v ∈ vs, answers now task f (.one v) .eq = p v)
    (hne : ∀ v ∈ vs, answers now task f (.one v) .ne = !p v) : ItemByItem now task f vs where
  isIn := by
    rw [hisIn, Bool.eq_iff_iff, List.any_eq_true, List.any_eq_true]
    exact exists_congr fun v => and_congr_right fun hv => by rw [heq v hv]
  notIn := by
    rw [hnotIn, List.not_any_eq_all_not, Bool.eq_iff_iff, List.all_eq_true, List.all_eq_true]
    exact forall₂_congr fun v hv => by rw [hne v hv]

/-! ## Kinds of fields -/

/-- If a list and its items are compared on one scale, membership is asked item by item. -/
theorem itemByItem_of_scale {s : Scale} {d : Datum} (hvs : vs ≠ [])
    (hd : taskValue? task f = some d) (hlist : Scale.of? now task f (asksDays (.many vs)) = some s)
    (hitems : ∀ v ∈ vs, Scale.of? now task f (asksDays (.one v)) = some s)
    (hforms : ∀ v ∈ vs, hasForm now f.kind v.toDatum = .ok true) : ItemByItem now task f vs := by
  by_cases hform : hasForm now f.kind d = .ok true
  · obtain ⟨a, ha⟩ := ((Scale.measures_of_of? hlist).actual d).1 hform
    have hpoints : ∀ v ∈ vs, ∃ t, s.wanted v = .ok (some t) :=
      fun v hv => ((Scale.measures_of_of? hlist).wanted v).1 (hforms v hv)
    have hwanted : ∀ v ∈ (Literal.many vs).values, ∃ t, s.wanted v = .ok t := by
      intro v hv
      obtain ⟨t, ht⟩ := hpoints v hv
      exact ⟨some t, ht⟩
    have hone {v : Scalar} (hv : v ∈ vs) : ∃ t, s.wanted? v = some t ∧
        answers now task f (.one v) .eq = holds .eq (s.order a t) ∧
        answers now task f (.one v) .ne = holds .ne (s.order a t) := by
      obtain ⟨t, ht⟩ := hpoints v hv
      refine ⟨t, by rw [Scale.wanted?, ht], ?_, ?_⟩
      · exact answers_of_compares hd (hitems v hv) (Scale.compares_one ha ht rfl)
      · exact answers_of_compares hd (hitems v hv) (Scale.compares_one ha ht rfl)
    refine itemByItem_of_test (answers_of_compares hd hlist (Scale.compares_isIn ha hwanted))
      (answers_of_compares hd hlist (Scale.compares_notIn ha hwanted)) (fun v hv => ?_)
      fun v hv => ?_
    · obtain ⟨t, ht, heq, -⟩ := hone hv
      rw [heq, Scale.meets, ht]
      rfl
    · obtain ⟨t, ht, -, hne⟩ := hone hv
      rw [hne, Scale.meets, ht]
      rfl
  · obtain ⟨hstring, harray⟩ : f.kind ≠ .string ∧ f.kind ≠ .array := by
      rcases Scale.of?_cases hlist with ⟨hkind, -⟩ | ⟨hkind, -⟩ | ⟨hkind, -⟩ <;> simp [hkind]
    exact itemByItem_of_false hvs fun l op =>
      answers_of_formless (taskValue?_eq_some_iff.1 hd).1 hstring harray hform op

/-- Texts are asked for item by item, if those of the items can be written. -/
theorem itemByItem_of_string {d : Datum} (hvs : vs ≠ []) (hd : taskValue? task f = some d)
    (hkind : f.kind = .string) (htexts : ∀ v ∈ vs, v.toDatum.overlong? = none) :
    ItemByItem now task f vs := by
  by_cases hwritten : d.overlong? = none
  · have hlist (op : Operator) : answers now task f (.many vs) op =
        comparesText op d.asText (.many vs) :=
      answers_of_string (l := .many vs) hd hkind hwritten htexts op
    have hone {v : Scalar} (hv : v ∈ vs) (op : Operator) :
        answers now task f (.one v) op = comparesText op d.asText (.one v) :=
      answers_of_string (l := .one v) hd hkind hwritten
        (fun u hu => htexts u (List.mem_singleton.1 hu ▸ hv)) op
    have contained : (vs.map plainText).contains d.asText = vs.any (d.asText == plainText ·) := by
      rw [List.contains_eq_any_beq, List.any_map]
      rfl
    refine itemByItem_of_test ((hlist .isIn).trans contained)
      ((hlist .notIn).trans (congrArg Bool.not contained)) (fun v hv => hone hv .eq)
      fun v hv => hone hv .ne
  · exact itemByItem_of_false hvs fun l op => answers_of_unwritten hd hkind hwritten op

/-- The id of a filter value, if it has one. -/
def id? (v : Scalar) : Option Coercion.Id :=
  match Coercion.id v.toDatum with
  | .ok i => i
  | .error _ => none

theorem ids_eq (h : ∀ v ∈ vs, ∃ i, Coercion.id v.toDatum = .ok i) :
    Coercion.ids (vs.map Scalar.toDatum) = .ok (vs.filterMap id?) := by
  refine bind_eq_ok_iff.2 ⟨vs.map id?, mapM_eq_ok_iff.2 ?_, ?_⟩
  · rw [List.map_map, List.map_map]
    refine List.map_congr_left fun v hv => ?_
    obtain ⟨i, hi⟩ := h v hv
    rw [Function.comp_apply, Function.comp_apply, id?, hi]
  · rw [List.filterMap_map]
    rfl

theorem meet_iff {a b : List Coercion.Id} : meet a b = true ↔ ∃ i ∈ a, i ∈ b := by
  simp [meet]

/-- Ids meet a list if they meet one of its items. -/
theorem meet_filterMap (a : List Coercion.Id) :
    meet a (vs.filterMap id?) = vs.any fun v => meet a ([v].filterMap id?) := by
  rw [Bool.eq_iff_iff, meet_iff, List.any_eq_true]
  constructor
  · rintro ⟨i, hi, hmem⟩
    obtain ⟨v, hv, hid⟩ := List.mem_filterMap.1 hmem
    exact ⟨v, hv, meet_iff.2 ⟨i, hi, List.mem_filterMap.2 ⟨v, List.mem_singleton_self v, hid⟩⟩⟩
  · rintro ⟨v, hv, hmeet⟩
    obtain ⟨i, hi, hmem⟩ := meet_iff.1 hmeet
    obtain ⟨u, hu, hid⟩ := List.mem_filterMap.1 hmem
    exact ⟨i, hi, List.mem_filterMap.2 ⟨v, hv, List.mem_singleton.1 hu ▸ hid⟩⟩

/-- Ids are asked for item by item, if those of the items come to an end. -/
theorem itemByItem_of_array {d : Datum} (hvs : vs ≠ []) (hd : taskValue? task f = some d)
    (hkind : f.kind = .array) (hids : ∀ v ∈ vs, ∃ i, Coercion.id v.toDatum = .ok i) :
    ItemByItem now task f vs := by
  cases ha : Coercion.ids (Coercion.items d) with
  | error e =>
    refine itemByItem_of_false hvs fun l op => ?_
    refine satisfies_of_ne_true (c := ⟨f, op, l⟩) hd ?_
    rw [compareValue, hkind]
    dsimp only
    rw [compareIds, ha]
    intro h
    cases h
  | ok a =>
    obtain ⟨hin, hnotIn, -⟩ := exists_compareIds (l := .many vs) ha (ids_eq hids)
    have hone {v : Scalar} (hv : v ∈ vs) :
        compareIds .eq d (.one v) = .ok (meet a ([v].filterMap id?)) ∧
          compareIds .ne d (.one v) = .ok (!meet a ([v].filterMap id?)) := by
      have hid : ∀ u ∈ [v], ∃ i, Coercion.id u.toDatum = .ok i :=
        fun u hu => List.mem_singleton.1 hu ▸ hids v hv
      obtain ⟨-, -, b, hb, heq, hne⟩ := exists_compareIds (l := .one v) ha (ids_eq hid)
      obtain rfl := hb v rfl
      exact ⟨heq, hne⟩
    rw [meet_filterMap] at hin hnotIn
    exact itemByItem_of_test (answers_of_array hd hkind hin) (answers_of_array hd hkind hnotIn)
      (fun v hv => answers_of_array hd hkind (hone hv).1)
      fun v hv => answers_of_array hd hkind (hone hv).2

end

/-! ## Whole days -/

/-- Whether the items of a list all ask for whole days, or none of them does. -/
def SameKindOfDate (vs : List Scalar) : Prop :=
  (∀ v ∈ vs, Coercion.isDateOnly v.toDatum = true) ∨ ∀ v ∈ vs, Coercion.isDateOnly v.toDatum = false

/-- The day of a value in universal time, if it is a moment. -/
def day? (now : Stamp) (d : Datum) : Option Int :=
  match Coercion.moment now d with
  | .ok m => m.map fun s => s.dayNumber
  | .error _ => none

/-- Membership in a list is to fall on the day of one of its items, and exclusion is to fall on a
day, but on that of none. -/
structure ByDays (now : Stamp) (task : Fields) (f : Field) (vs : List Scalar) : Prop where
  isIn : answers now task f (.many vs) .isIn = true ↔
    ∃ day, (taskValue? task f).bind (day? now) = some day ∧ ∃ v ∈ vs, day? now v.toDatum = some day
  notIn : answers now task f (.many vs) .notIn = true ↔
    ∃ day, (taskValue? task f).bind (day? now) = some day ∧ ∀ v ∈ vs, day? now v.toDatum ≠ some day

section

variable {vs : List Scalar}

theorem asksDays_of_sameKindOfDate (h : SameKindOfDate vs) {v : Scalar} (hv : v ∈ vs) :
    asksDays (.one v) = asksDays (.many vs) := by
  have hone : asksDays (.one v) = Coercion.isDateOnly v.toDatum := Bool.or_false _
  rw [hone]
  rcases h with hall | hnone
  · rw [hall v hv]
    exact (List.any_eq_true.2 ⟨v, hv, hall v hv⟩).symm
  · rw [hnone v hv]
    exact (List.any_eq_false.2 fun u hu => by simp [hnone u hu]).symm

theorem placeOf_eq_ok_some_iff {d : Datum} {n : Int} :
    placeOf now true d = .ok (some n) ↔ day? now d = some n := by
  unfold placeOf day?
  cases Coercion.moment now d with
  | error e => simp [bind, Except.bind]
  | ok m => simp [bind, Except.bind, place]

/-- On the scale of days a filter value meets the day that is its own. -/
theorem meets_date_iff {n : Int} {v : Scalar} :
    (Scale.date now true).meets n v = true ↔ day? now v.toDatum = some n := by
  have hwanted : (Scale.date now true).wanted? v = day? now v.toDatum := by
    unfold Scale.wanted? Scale.date placeOf day?
    dsimp only
    cases Coercion.moment now v.toDatum <;> rfl
  unfold Scale.meets
  rw [hwanted]
  cases day? now v.toDatum with
  | none => exact iff_of_false Bool.false_ne_true nofun
  | some t =>
    change (some (compare n t) == some Ordering.eq) = true ↔ some t = some n
    rw [beq_iff_eq, Option.some.injEq, Option.some.injEq, Int.compare_eq_eq]
    exact eq_comm

/-- A list of dates with a whole day is compared by days. -/
theorem byDays_of_asksDays (hkind : f.kind = .date) (hdays : asksDays (.many vs) = true)
    (hforms : ∀ v ∈ vs, hasForm now f.kind v.toDatum = .ok true) : ByDays now task f vs := by
  have hs : Scale.of? now task f (asksDays (.many vs)) = some (.date now true) := by
    rw [Scale.of?, hkind, hdays]
  have hwanted : ∀ v ∈ (Literal.many vs).values, ∃ t, (Scale.date now true).wanted v = .ok t := by
    intro v hv
    obtain ⟨t, ht⟩ := ((Scale.measures_of_of? hs).wanted v).1 (hforms v hv)
    exact ⟨some t, ht⟩
  cases hday : (taskValue? task f).bind (day? now) with
  | none =>
    -- without a day the task satisfies nothing
    have hfalse (op : Operator) : answers now task f (.many vs) op = false := by
      cases hd : taskValue? task f with
      | none => exact satisfies_of_none (c := ⟨f, op, .many vs⟩) hd
      | some d =>
        rw [hd] at hday
        refine answers_of_formless (taskValue?_eq_some_iff.1 hd).1 (by simp [hkind])
          (by simp [hkind]) (fun hform => ?_) op
        obtain ⟨n, hn⟩ := ((Scale.measures_of_of? hs).actual d).1 hform
        have hn' := placeOf_eq_ok_some_iff.1 hn
        rw [Option.bind_some, hn'] at hday
        cases hday
    constructor
    · simp [hfalse, hday]
    · simp [hfalse, hday]
  | some n =>
    obtain ⟨d, hd, hn⟩ := Option.bind_eq_some_iff.1 hday
    have ha : (Scale.date now true).actual d = .ok (some n) := placeOf_eq_ok_some_iff.2 hn
    constructor
    · rw [answers_of_compares hd hs (Scale.compares_isIn ha hwanted), List.any_eq_true, hday]
      simp only [meets_date_iff, Literal.values, Option.some.injEq, exists_eq_left']
    · rw [answers_of_compares hd hs (Scale.compares_notIn ha hwanted), Bool.not_eq_true',
        List.any_eq_false, hday]
      simp only [meets_date_iff, Literal.values, Option.some.injEq, exists_eq_left']

end

/-! ## Lists that passed -/

/-- A value that passed and whose coercion comes to an end has the form of its field, if that is no
field of ids. -/
theorem hasForm_of_passes {v : Scalar} (h : Passes now f v) (harray : f.kind ≠ .array)
    (hends : ∃ b, hasForm now f.kind v.toDatum = .ok b) :
    hasForm now f.kind v.toDatum = .ok true := by
  by_cases hstring : f.kind = .string
  · rw [hstring] at hends ⊢
    exact hasForm_string_iff.2 (exists_hasForm_string_iff.1 hends)
  have husable := Passes.usable (c := ⟨f, .eq, .one v⟩) h hstring harray
  unfold Usable at husable
  dsimp only at husable
  cases hkind : f.kind with
  | boolean =>
    rw [hkind] at husable
    obtain ⟨b, hb⟩ := husable
    rw [hasForm, hb]
    rfl
  | number =>
    rw [hkind] at husable
    dsimp only at husable
    split at husable
    · exact map_isSome_eq_ok_true_iff.2 (exists_bind_map_iff.1 husable)
    · exact map_isSome_eq_ok_true_iff.2 husable
  | date =>
    rw [hkind] at husable
    exact map_isSome_eq_ok_true_iff.2 (exists_bind_map_iff.1 husable)
  | string => exact absurd hkind hstring
  | array => exact absurd hkind harray

/-- A list whose items have the form of the field is asked for item by item, unless it mixes days
and moments. -/
theorem itemByItem_of_forms {vs : List Scalar} (hvs : vs ≠ [])
    (hforms : f.kind ≠ .array → ∀ v ∈ vs, hasForm now f.kind v.toDatum = .ok true)
    (hends : Harmless now f.kind (.many vs)) (hdates : f.kind = .date → SameKindOfDate vs) :
    ItemByItem now task f vs := by
  cases hd : taskValue? task f with
  | none => exact itemByItem_of_false hvs fun l op => satisfies_of_none (c := ⟨f, op, l⟩) hd
  | some d =>
    rcases exists_of? now task f (asksDays (.many vs)) with ⟨s, hs, -, harray⟩ | hkind | hkind
    · refine itemByItem_of_scale hvs hd hs (fun v hv => ?_) (hforms harray)
      by_cases hkind : f.kind = .date
      · rw [asksDays_of_sameKindOfDate (hdates hkind) hv]
        exact hs
      · -- only the scale of dates depends on what is asked for
        rw [← hs]
        unfold Scale.of?
        cases hf : f.kind <;> first | rfl | exact absurd hf hkind
    · refine itemByItem_of_string hvs hd hkind fun v hv => ?_
      have hend := hends v hv
      rw [hkind] at hend
      exact exists_hasForm_string_iff.1 hend
    · refine itemByItem_of_array hvs hd hkind fun v hv => ?_
      have hend := hends v hv
      rw [hkind] at hend
      exact exists_map_eq_ok_iff.1 hend

/-- A list that passed and whose items all come to an end is asked for item by item, unless it mixes
days and moments; a list of dates with a whole day is asked for by days. -/
theorem membership_of_valid {v : Scalar} {rest : List Scalar} {r : Report}
    (hcheck : (Expr.leaf ⟨f, .isIn, .many (v :: rest)⟩).check now = .ok r) (hvalid : r.valid = true)
    (hends : Harmless now f.kind (.many (v :: rest))) (task : Fields) :
    ((f.kind = .date → SameKindOfDate (v :: rest)) →
      (Expr.leaf ⟨f, .isIn, .many (v :: rest)⟩).matches now task =
          (Expr.equalToAny f v rest).matches now task ∧
        (Expr.leaf ⟨f, .notIn, .many (v :: rest)⟩).matches now task =
          (Expr.differentFromAll f v rest).matches now task) ∧
      (f.kind = .date → (∃ u ∈ v :: rest, Coercion.isDateOnly u.toDatum = true) →
        ByDays now task f (v :: rest)) := by
  have hpasses : ∀ u ∈ v :: rest, Passes now f u :=
    passes_of_check hcheck hvalid _ (List.mem_singleton_self _)
  have hforms (harray : f.kind ≠ .array) :
      ∀ u ∈ v :: rest, hasForm now f.kind u.toDatum = .ok true :=
    fun u hu => hasForm_of_passes (hpasses u hu) harray (hends u hu)
  constructor
  · intro hdates
    have hitems : ItemByItem now task f (v :: rest) :=
      itemByItem_of_forms (List.cons_ne_nil v rest) hforms hends hdates
    rw [matches_equalToAny, matches_differentFromAll]
    exact ⟨hitems.isIn, hitems.notIn⟩
  · rintro hkind ⟨u, hu, hday⟩
    exact byDays_of_asksDays hkind (List.any_eq_true.2 ⟨u, hu, hday⟩) (hforms (by simp [hkind]))

/-- A task due in the evening of a day. -/
def dueInTheEvening : Fields :=
  [("due_date", .text "2024-05-16T18:00:00Z"), ("labels", .list [.int 7])]

/-- The day before that task is due, and the morning on which it is. -/
def dayAndMorning : List Scalar := [.text "2024-05-15", .text "2024-05-16T10:00:00Z"]

/-- A day among the dates of a list makes its moments days: the task is in the list, and equal to
none of its items. -/
theorem isIn_ne_equalToAny_of_dayAndMorning :
    (∃ r, (Expr.leaf ⟨.dueDate, .isIn, .many dayAndMorning⟩).check (.ofDay 738000 none) = .ok r ∧
        r.valid = true) ∧
      (Expr.leaf ⟨.dueDate, .isIn, .many dayAndMorning⟩).matches (.ofDay 738000 none)
        dueInTheEvening = true ∧
      (Expr.equalToAny .dueDate (.text "2024-05-15") [.text "2024-05-16T10:00:00Z"]).matches
        (.ofDay 738000 none) dueInTheEvening = false ∧
      (Expr.leaf ⟨.dueDate, .notIn, .many dayAndMorning⟩).matches (.ofDay 738000 none)
        dueInTheEvening = false ∧
      (Expr.differentFromAll .dueDate (.text "2024-05-15") [.text "2024-05-16T10:00:00Z"]).matches
        (.ofDay 738000 none) dueInTheEvening = true := by
  refine ⟨⟨_, rfl, rfl⟩, ?_, ?_, ?_, ?_⟩
  · decide +kernel
  · decide +kernel
  · decide +kernel
  · decide +kernel

/-- Labels are asked for item by item, and a day and a morning by days. -/
theorem membership_of_labels_and_dates :
    (Expr.leaf ⟨.labels, .isIn, .many [.int 7, .text "x"]⟩).matches (.ofDay 738000 none)
        dueInTheEvening =
      (Expr.equalToAny .labels (.int 7) [.text "x"]).matches (.ofDay 738000 none)
        dueInTheEvening ∧
      ByDays (.ofDay 738000 none) dueInTheEvening .dueDate dayAndMorning := by
  have hlabels : (Expr.leaf ⟨.labels, .isIn, .many [.int 7, .text "x"]⟩).check
      (.ofDay 738000 none) = .ok {} := rfl
  have hids : Harmless (.ofDay 738000 none) (Field.kind .labels) (.many [.int 7, .text "x"]) := by
    change ∀ u ∈ [Scalar.int 7, .text "x"], _
    simp only [List.forall_mem_cons]
    exact ⟨⟨_, rfl⟩, ⟨_, rfl⟩, by simp⟩
  have hmoments : Harmless (.ofDay 738000 none) (Field.kind .dueDate) (.many dayAndMorning) := by
    change ∀ u ∈ [Scalar.text "2024-05-15", .text "2024-05-16T10:00:00Z"], _
    simp only [List.forall_mem_cons]
    exact ⟨⟨_, rfl⟩, ⟨_, rfl⟩, by simp⟩
  obtain ⟨r, hdates, hvalid⟩ : ∃ r, (Expr.leaf ⟨.dueDate, .isIn, .many dayAndMorning⟩).check
      (.ofDay 738000 none) = .ok r ∧ r.valid = true := ⟨_, rfl, rfl⟩
  constructor
  · exact ((membership_of_valid hlabels rfl hids dueInTheEvening).1 nofun).1
  · exact (membership_of_valid hdates hvalid hmoments dueInTheEvening).2 rfl
      ⟨.text "2024-05-15", List.mem_cons_self, by decide⟩

end Evaluation

end TaskSieve.Filter
