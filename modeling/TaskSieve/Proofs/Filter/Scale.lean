import TaskSieve.Filter.Evaluation
import TaskSieve.Proofs.Except

set_option autoImplicit false

/-! # Scales

Truth values, numbers, percentages and moments are compared alike: the value of the task and those
of the filter are brought onto one scale and stand in its order there. What holds of every scale is
proved here once, for membership and for the operators that take a single value. -/

namespace TaskSieve.Filter.Evaluation

open TaskSieve.Calendar

/-- What the values of a field are compared on: the order of its points, and the point of a task
value and of a filter value, if they have one. -/
structure Scale where
  Point : Type
  order : Point → Point → Option Ordering
  actual : Datum → Except Fault (Option Point)
  wanted : Scalar → Except Fault (Option Point)

namespace Scale

/-- The scale of truth values. -/
def truth : Scale where
  Point := Bool
  order := truthOrder
  actual := fun d => .ok (Coercion.boolean d)
  wanted := fun v => .ok (Coercion.boolean v.toDatum)

/-- The scale of numbers. -/
def number : Scale where
  Point := Binary64
  order := Binary64.compare?
  actual := Coercion.number
  wanted := fun v => Coercion.number v.toDatum

/-- The scale of percentages. -/
def percent (isFraction : Bool) : Scale where
  Point := Binary64
  order := Binary64.compare?
  actual := Coercion.taskPercent isFraction
  wanted := fun v => Coercion.percent v.toDatum

/-- The scale of moments, or of days. -/
def date (now : Stamp) (days : Bool) : Scale where
  Point := Int
  order := fun x y => some (compare x y)
  actual := placeOf now days
  wanted := fun v => placeOf now days v.toDatum

/-- The scale of a field in a task; texts and ids have none. -/
def of? (now : Stamp) (task : Fields) (f : Field) (days : Bool) : Option Scale :=
  match f.kind with
  | .boolean => some truth
  | .number => some (if f = .percentDone then percent (Fields.has task f.taskKey) else number)
  | .date => some (date now days)
  | .string | .array => none

/-- Compares a task value with filter values on a scale. -/
def compares (s : Scale) (op : Operator) (actual : Datum) (expected : Literal) :
    Except Fault Bool := do
  let a ← s.actual actual
  compareScalar s.order s.wanted op a expected

/-- The point of a filter value, if it has one. -/
def wanted? (s : Scale) (v : Scalar) : Option s.Point :=
  match s.wanted v with
  | .ok t => t
  | .error _ => none

/-- Whether a filter value has a point that is equal to one of a task value. -/
def meets (s : Scale) (a : s.Point) (v : Scalar) : Bool :=
  (s.wanted? v).any fun t => s.order a t == some .eq

variable {now : Stamp} {task : Fields} {s : Scale} {d : Datum} {a t : s.Point} {l : Literal}
  {v : Scalar}

/-- Values of a field with a scale are compared on it. -/
theorem compareValue_eq {c : Condition} (h : of? now task c.field (asksDays c.value) = some s)
    (actual : Datum) : compareValue now task c actual = s.compares c.operator actual c.value := by
  unfold of? at h
  unfold compareValue
  cases hkind : c.field.kind with
  | boolean | date =>
    rw [hkind] at h
    cases h
    rfl
  | number =>
    rw [hkind] at h
    dsimp only at h ⊢
    split at h
    · next hpercent =>
      cases h
      rw [if_pos hpercent]
      rfl
    · next hnumber =>
      cases h
      rw [if_neg hnumber]
      rfl
  | string | array =>
    rw [hkind] at h
    cases h

/-! ## Comparing -/

/-- A task value without a point satisfies no comparison. -/
theorem compares_ne_true (h : ∀ a, s.actual d ≠ .ok (some a)) (op : Operator) (l : Literal) :
    s.compares op d l ≠ .ok true := by
  intro htrue
  obtain ⟨found, hfound, hcompare⟩ := bind_eq_ok_iff.1 htrue
  cases found with
  | none => cases hcompare
  | some a => exact h a hfound

theorem mapM_wanted {vs : List Scalar} (h : ∀ v ∈ vs, ∃ t, s.wanted v = .ok t) :
    vs.mapM s.wanted = .ok (vs.map s.wanted?) := by
  rw [mapM_eq_ok_iff, List.map_map]
  refine List.map_congr_left fun v hv => ?_
  obtain ⟨t, ht⟩ := h v hv
  rw [Function.comp_apply, wanted?, ht]

/-- Membership asks whether one of the filter values meets the task value. -/
theorem compares_isIn (ha : s.actual d = .ok (some a))
    (hl : ∀ v ∈ l.values, ∃ t, s.wanted v = .ok t) :
    s.compares .isIn d l = .ok (l.values.any (s.meets a)) := by
  refine bind_eq_ok_iff.2 ⟨some a, ha, bind_eq_ok_iff.2 ⟨_, mapM_wanted hl, ?_⟩⟩
  dsimp only
  rw [if_pos rfl, List.any_map]
  rfl

/-- Exclusion is the negation of membership. -/
theorem compares_notIn (ha : s.actual d = .ok (some a))
    (hl : ∀ v ∈ l.values, ∃ t, s.wanted v = .ok t) :
    s.compares .notIn d l = .ok (!l.values.any (s.meets a)) := by
  refine bind_eq_ok_iff.2 ⟨some a, ha, bind_eq_ok_iff.2 ⟨_, mapM_wanted hl, ?_⟩⟩
  dsimp only
  rw [if_neg (by decide), List.any_map]
  rfl

/-- The other operators ask how the points of two single values stand to each other. -/
theorem compares_one {op : Operator} (ha : s.actual d = .ok (some a))
    (hv : s.wanted v = .ok (some t)) (hop : op.isMembership = false) :
    s.compares op d (.one v) = .ok (holds op (s.order a t)) := by
  refine bind_eq_ok_iff.2 ⟨some a, ha, ?_⟩
  unfold compareScalar
  dsimp only
  rw [if_neg (by simp [hop])]
  exact bind_eq_ok_iff.2 ⟨some t, hv, rfl⟩

/-- Two filter values compare alike if their points stand alike to every point. -/
theorem compares_congr {u : s.Point} {w : Scalar} (hv : s.wanted v = .ok (some t))
    (hw : s.wanted w = .ok (some u)) (h : ∀ a, s.order a t = s.order a u) (op : Operator)
    (d : Datum) : s.compares op d (.one v) = s.compares op d (.one w) := by
  have single {v : Scalar} {t : s.Point} (hv : s.wanted v = .ok (some t)) :
      [v].mapM s.wanted = .ok [some t] := mapM_eq_ok_iff.2 (by simp [hv])
  refine congrArg (s.actual d >>= ·) (funext fun found => ?_)
  cases found with
  | none => rfl
  | some a =>
    simp only [compareScalar, Literal.values, single hv, single hw, hv, hw]
    split
    · simp only [bind, Except.bind, List.any_cons, List.any_nil, Option.any_some, h a]
    · simp only [bind, Except.bind, h a]

end Scale

/-! ## Forms -/

/-- Whether a value has the form of a kind, as far as its coercion comes to an end. -/
def hasForm (now : Stamp) (k : Kind) (d : Datum) : Except Fault Bool :=
  match k with
  | .boolean => .ok (Coercion.boolean d).isSome
  | .number => (Coercion.number d).map Option.isSome
  | .date => (Coercion.moment now d).map Option.isSome
  | .string => (Coercion.taskText d).map fun _ => true
  | .array => (Coercion.id d).map fun _ => true

theorem map_isSome_eq_ok_true_iff {α : Type} {x : Except Fault (Option α)} :
    x.map Option.isSome = .ok true ↔ ∃ a, x = .ok (some a) := by
  cases x with
  | error e => simp [Except.map]
  | ok o => simp [Except.map, Option.isSome_iff_exists]

theorem exists_map_eq_ok_iff {α β : Type} {x : Except Fault α} {g : α → β} :
    (∃ b, x.map g = .ok b) ↔ ∃ a, x = .ok a := by
  cases x <;> simp [Except.map]

/-- Moving points leaves those that are none. -/
theorem exists_bind_map_iff {α β : Type} {x : Except Fault (Option α)} {g : α → β} :
    (∃ b, (x >>= fun o => .ok (o.map g)) = .ok (some b)) ↔ ∃ a, x = .ok (some a) := by
  cases x with
  | error e => simp [bind, Except.bind]
  | ok o => cases o <;> simp [bind, Except.bind]

theorem exists_bind_ok_iff {α β : Type} {x : Except Fault α} {g : α → β} :
    (∃ b, (x >>= fun a => .ok (g a)) = .ok b) ↔ ∃ a, x = .ok a := by
  cases x <;> simp [bind, Except.bind]

namespace Scale

variable {now : Stamp} {task : Fields} {f : Field} {days : Bool} {s : Scale}

/-- A scale is one of the four. -/
theorem of?_cases (h : of? now task f days = some s) :
    f.kind = .boolean ∧ s = truth ∨
      f.kind = .number ∧ (s = number ∨ ∃ isFraction, s = percent isFraction) ∨
      f.kind = .date ∧ s = date now days := by
  unfold of? at h
  split at h
  · next hkind =>
    cases h
    exact .inl ⟨hkind, rfl⟩
  · next hkind =>
    cases h
    refine .inr (.inl ⟨hkind, ?_⟩)
    split
    · exact .inr ⟨_, rfl⟩
    · exact .inl rfl
  · next hkind =>
    cases h
    exact .inr (.inr ⟨hkind, rfl⟩)
  · cases h
  · cases h

/-- A scale has points for the values that have the form of a kind, and its coercions come to an end
where those of the kind do. -/
structure Measures (s : Scale) (now : Stamp) (k : Kind) : Prop where
  actual : ∀ d, hasForm now k d = .ok true ↔ ∃ a, s.actual d = .ok (some a)
  wanted : ∀ v, hasForm now k v.toDatum = .ok true ↔ ∃ t, s.wanted v = .ok (some t)
  ends : ∀ v, (∃ b, hasForm now k v.toDatum = .ok b) ↔ ∃ t, s.wanted v = .ok t

/-- The scale of a field measures its kind. -/
theorem measures_of_of? (h : of? now task f days = some s) : s.Measures now f.kind := by
  rcases of?_cases h with ⟨hkind, rfl⟩ | ⟨hkind, rfl | ⟨isFraction, rfl⟩⟩ | ⟨hkind, rfl⟩ <;>
    rw [hkind]
  · exact {
      actual := fun d => map_isSome_eq_ok_true_iff (x := .ok (Coercion.boolean d))
      wanted := fun v => map_isSome_eq_ok_true_iff (x := .ok (Coercion.boolean v.toDatum))
      ends := fun v => iff_of_true ⟨_, rfl⟩ ⟨_, rfl⟩ }
  · exact {
      actual := fun d => map_isSome_eq_ok_true_iff
      wanted := fun v => map_isSome_eq_ok_true_iff
      ends := fun v => exists_map_eq_ok_iff }
  · -- a percentage is a number on another scale
    exact {
      actual := fun d => map_isSome_eq_ok_true_iff.trans exists_bind_map_iff.symm
      wanted := fun v => map_isSome_eq_ok_true_iff.trans exists_bind_map_iff.symm
      ends := fun v => exists_map_eq_ok_iff.trans exists_bind_ok_iff.symm }
  · -- and so is the place of a moment
    exact {
      actual := fun d => map_isSome_eq_ok_true_iff.trans exists_bind_map_iff.symm
      wanted := fun v => map_isSome_eq_ok_true_iff.trans exists_bind_map_iff.symm
      ends := fun v => exists_map_eq_ok_iff.trans exists_bind_ok_iff.symm }

end Scale

end TaskSieve.Filter.Evaluation
