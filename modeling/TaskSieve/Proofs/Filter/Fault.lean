import TaskSieve.Filter.Accept
import TaskSieve.Proofs.Filter.Moment
import TaskSieve.Proofs.Filter.Rereading
import TaskSieve.Proofs.Number.Overflow

set_option autoImplicit false

/-! # Expressions whose check fails

The check of an expression reports what is wrong with it, and fails itself for three kinds of values
only: an integer beyond the largest number, where a number is compared, a distance from now that
cannot be read, where a date is, and an integer of too many digits, where it is to be shown. The
first such value decides. A value that is not looked at does no harm, and the time of the check does
not matter. -/

namespace TaskSieve.Filter

open TaskSieve.Calendar

/-! ## What is faulty -/

/-- Why the check of a value of a field fails. -/
inductive Scalar.FailsBy (f : Field) : Scalar → Fault → Prop
  | tooLarge {n : Int} (kind : f.kind = .number) (large : Binary64.overflow ≤ n.natAbs) :
      FailsBy f (.int n) .numberTooLarge
  | untold {s : String} {fault : Fault} (kind : f.kind = .date)
      (text : Moment.Faulty (Text.trim s.toList) fault) : FailsBy f (.text s) fault
  | unwritten {n : Int} {o : Overlong} (kind : f.kind = .boolean ∨ f.kind = .date)
      (long : Overlong.ofInt? n = some o) : FailsBy f (.int n) (.overlong o)

/-- The first element of a list that fails, fails by a fault. -/
def FirstFailsBy {α : Type} (fails : α → Fault → Prop) (xs : List α) (fault : Fault) : Prop :=
  ∃ before x after, xs = before ++ x :: after ∧ (∀ y ∈ before, ∀ other, ¬ fails y other) ∧
    fails x fault

/-- Whether the check of a condition looks at its values: always for membership, else if the
operator suits the field and there is a single value. -/
def Condition.LooksAtValues (c : Condition) : Prop :=
  c.operator.isMembership = true ∨ c.operator.suits c.field.kind = true ∧ ∃ v, c.value = .one v

/-- Why the check of a condition fails: its values are looked at, and one of them fails. -/
def Condition.FailsBy (c : Condition) (fault : Fault) : Prop :=
  c.LooksAtValues ∧ FirstFailsBy (Scalar.FailsBy c.field) c.value.values fault

/-- Why the check of an expression fails. -/
def Expr.FailsBy (e : Expr) (fault : Fault) : Prop :=
  FirstFailsBy Condition.FailsBy e.conditions fault

/-- Whether a fault is one that the tools do not foresee: any but too many digits. -/
def Fault.IsUnforeseen (fault : Fault) : Prop := ∀ o, fault ≠ .overlong o

/-- An expression whose check fails unforeseen. -/
def Expr.IsFaulty (e : Expr) : Prop := ∃ fault, e.FailsBy fault ∧ fault.IsUnforeseen

theorem mapM_eq_error_iff_firstFailsBy {α β : Type} {f : α → Except Fault β}
    {fails : α → Fault → Prop} (h : ∀ x fault, f x = .error fault ↔ fails x fault) {xs : List α}
    {fault : Fault} : xs.mapM f = .error fault ↔ FirstFailsBy fails xs fault := by
  have succeeds (x : α) : (∃ b, f x = .ok b) ↔ ∀ other, ¬ fails x other := by
    simp only [← h]
    cases f x <;> simp
  simp only [mapM_eq_error_iff, FirstFailsBy, succeeds, h]

/-! ## Values -/

/-- A value that has no text: an integer of too many digits. -/
def Scalar.UnwrittenBy (v : Scalar) (fault : Fault) : Prop :=
  ∃ n o, v = .int n ∧ Overlong.ofInt? n = some o ∧ fault = .overlong o

theorem shown_eq_error_iff {v : Scalar} {fault : Fault} :
    Check.shown v = .error fault ↔ v.UnwrittenBy fault := by
  rw [Check.shown, Datum.toText, mapError_eq_error_iff, Scalar.UnwrittenBy]
  simp only [Overlong.guard_eq_error_iff]
  cases v with
  | int n => simp [Scalar.toDatum, Datum.overlong?, eq_comm]
  | bool _ | num _ | text _ => simp [Scalar.toDatum, Datum.overlong?]

/-- A value that has the wrong form is reported unless it cannot be shown. -/
theorem unexpected_eq_error_iff {f : Field} {v : Scalar} {form : String} {fault : Fault} :
    Check.unexpected f v form = .error fault ↔ v.UnwrittenBy fault := by
  rw [Check.unexpected, bind_eq_error_iff, ← shown_eq_error_iff]
  simp

/-- A value that has a number can be shown. -/
theorem checkBounds_ne_error {f : Field} {v : Scalar} {x : Binary64} {fault : Fault}
    (h : Coercion.number v.toDatum = .ok (some x)) :
    Check.checkBounds f v x ≠ .error fault := by
  have shows : Check.shown v ≠ .error fault := by
    intro hshown
    obtain ⟨n, o, rfl, long, -⟩ := shown_eq_error_iff.1 hshown
    rw [Scalar.toDatum, Coercion.number] at h
    split at h
    · next y hy => exact absurd (Overlong.ofInt?_of_binary64 hy) (by simp [long])
    · cases h
  unfold Check.checkBounds
  split
  · simp
  split
  · simp
  · intro hbounds
    rcases bind_eq_error_iff.1 hbounds with hshown | ⟨_, -, hreport⟩
    · exact shows hshown
    · cases hreport

theorem number_eq_error_iff {v : Scalar} {fault : Fault} :
    Coercion.number v.toDatum = .error fault ↔
      ∃ n, v = .int n ∧ Binary64.overflow ≤ n.natAbs ∧ fault = .numberTooLarge := by
  cases v with
  | int n =>
    simp only [Scalar.toDatum, Coercion.number, ← Binary64.ofInt?_eq_none_iff]
    cases hn : Binary64.ofInt? n with
    | some x => simp [hn]
    | none => simp [hn, eq_comm]
  | bool _ | num _ | text _ => simp [Scalar.toDatum, Coercion.number]

theorem moment_eq_error_iff {now : Stamp} {v : Scalar} {fault : Fault} :
    Coercion.moment now v.toDatum = .error fault ↔
      ∃ s, v = .text s ∧ Moment.Faulty (Text.trim s.toList) fault := by
  cases v with
  | text s =>
    refine Moment.ofText_eq_error_iff.trans ⟨fun h => ⟨s, rfl, h⟩, ?_⟩
    rintro ⟨t, ht, h⟩
    exact Scalar.text.inj ht ▸ h
  | bool _ | int _ | num _ => simp [Scalar.toDatum, Coercion.moment]

/-- Once the number of a value was looked for, the check of the value does not fail. -/
theorem checkNumber_ne_error {f : Field} {v : Scalar} {form : String} {fault : Fault} :
    ∀ {found : Option Binary64}, Coercion.number v.toDatum = .ok found →
      (match found with
        | none => Check.unexpected f v form
        | some x => Check.checkBounds f v x) ≠ .error fault
  | some x, hfound => checkBounds_ne_error hfound
  | none, hfound => by
    intro hreport
    obtain ⟨n, o, rfl, -⟩ := unexpected_eq_error_iff.1 hreport
    rw [Scalar.toDatum, Coercion.number] at hfound
    split at hfound <;> cases hfound

/-- An integer is an id, so a value that is none can be shown. -/
theorem not_unwrittenBy_of_not_isIdLike {v : Scalar} {fault : Fault}
    (h : ¬ Check.isIdLike v = true) : ¬ v.UnwrittenBy fault := by
  rintro ⟨n, o, rfl, -⟩
  exact h rfl

/-- The faults of a value, by the kind of the field. -/
theorem Scalar.failsBy_iff {f : Field} {v : Scalar} {fault : Fault} :
    v.FailsBy f fault ↔
      match f.kind with
      | .number => ∃ n, v = .int n ∧ Binary64.overflow ≤ n.natAbs ∧ fault = .numberTooLarge
      | .date => (∃ s, v = .text s ∧ Moment.Faulty (Text.trim s.toList) fault) ∨
          v.UnwrittenBy fault
      | .boolean => v.UnwrittenBy fault
      | .string | .array => False := by
  constructor
  · rintro (⟨kind, large⟩ | ⟨kind, text⟩ | ⟨kind | kind, long⟩)
    · rw [kind]
      exact ⟨_, rfl, large, rfl⟩
    · rw [kind]
      exact .inl ⟨_, rfl, text⟩
    · rw [kind]
      exact ⟨_, _, rfl, long, rfl⟩
    · rw [kind]
      exact .inr ⟨_, _, rfl, long, rfl⟩
  · intro h
    cases hkind : f.kind with
    | number =>
      rw [hkind] at h
      obtain ⟨n, rfl, large, rfl⟩ := h
      exact .tooLarge hkind large
    | date =>
      rw [hkind] at h
      obtain ⟨s, rfl, text⟩ | ⟨n, o, rfl, long, rfl⟩ := h
      · exact .untold hkind text
      · exact .unwritten (.inr hkind) long
    | boolean =>
      rw [hkind] at h
      obtain ⟨n, o, rfl, long, rfl⟩ := h
      exact .unwritten (.inl hkind) long
    | string | array =>
      rw [hkind] at h
      exact h.elim

/-- The check of a value fails for its faults only. -/
theorem checkValue_eq_error_iff (now : Stamp) (f : Field) (v : Scalar) (fault : Fault) :
    Check.checkValue now f v = .error fault ↔ v.FailsBy f fault := by
  rw [Scalar.failsBy_iff]
  unfold Check.checkValue
  cases f.kind with
  | number =>
    rw [← number_eq_error_iff, bind_eq_error_iff]
    -- the check fails where the number is looked for, and never behind that
    refine or_iff_left ?_
    rintro ⟨found, hfound, hreport⟩
    exact checkNumber_ne_error hfound hreport
  | date =>
    rw [bind_eq_error_iff, moment_eq_error_iff]
    refine or_congr_right ⟨?_, ?_⟩
    · rintro ⟨found | _, -, hreport⟩
      · exact unexpected_eq_error_iff.1 hreport
      · cases hreport
    · rintro ⟨n, o, rfl, long, rfl⟩
      exact ⟨none, rfl, unexpected_eq_error_iff.2 ⟨n, o, rfl, long, rfl⟩⟩
  | boolean =>
    dsimp only
    split
    · next hboolean =>
      refine iff_of_false (by simp) ?_
      rintro ⟨n, o, rfl, -⟩
      cases hboolean
    · exact unexpected_eq_error_iff
  | string => exact iff_of_false (by simp) id
  | array =>
    dsimp only
    split
    · simp
    · next hid =>
      exact unexpected_eq_error_iff.trans (iff_of_false (not_unwrittenBy_of_not_isIdLike hid) id)

/-! ## Conditions -/

theorem firstFailsBy_singleton_iff {α : Type} {fails : α → Fault → Prop} {x : α} {fault : Fault} :
    FirstFailsBy fails [x] fault ↔ fails x fault := by
  constructor
  · rintro ⟨before, y, after, hsplit, -, hy⟩
    obtain ⟨rfl, hsingle⟩ | ⟨a, rest, rfl, hrest⟩ :
        (before = [] ∧ [x] = y :: after) ∨ ∃ a rest, before = a :: rest ∧
          [x] = a :: (rest ++ y :: after) := by
      cases before with
      | nil => exact .inl ⟨rfl, hsplit⟩
      | cons a rest => exact .inr ⟨a, rest, rfl, hsplit⟩
    · exact (List.cons.inj hsingle).1 ▸ hy
    · simp at hrest
  · exact fun h => ⟨[], x, [], rfl, by simp, h⟩

/-- The check of the values of a condition fails for the first faulty one that it looks at. -/
theorem checkLiteral_eq_error_iff (now : Stamp) (c : Condition) (fault : Fault) :
    Check.checkLiteral now c = .error fault ↔
      (c.operator.isMembership = true ∨ ∃ v, c.value = .one v) ∧
        FirstFailsBy (Scalar.FailsBy c.field) c.value.values fault := by
  obtain ⟨f, op, value⟩ := c
  cases value with
  | many vs =>
    simp only [Check.checkLiteral, Literal.values]
    split
    · next hmember =>
      rw [bind_eq_error_iff,
        mapM_eq_error_iff_firstFailsBy (checkValue_eq_error_iff now f)]
      simp [hmember]
    · next hmember => simp [hmember]
  | one v =>
    simp only [Check.checkLiteral, Literal.values, bind_eq_error_iff, checkValue_eq_error_iff,
      firstFailsBy_singleton_iff]
    constructor
    · rintro (h | ⟨r, -, h⟩)
      · exact ⟨.inr ⟨v, rfl⟩, h⟩
      · split at h <;> cases h
    · exact fun h => .inl h.2

/-- The check of a condition fails for its faults only. -/
theorem checkCondition_eq_error_iff (now : Stamp) (c : Condition) (fault : Fault) :
    Check.checkCondition now c = .error fault ↔ c.FailsBy fault := by
  have literal := checkLiteral_eq_error_iff now c fault
  unfold Check.checkCondition Condition.FailsBy Condition.LooksAtValues
  split
  · next hsuits =>
    simpa only [hsuits, true_and] using literal
  next hsuits =>
  split
  · next hmember =>
    simp only [hmember, true_or, true_and] at literal ⊢
    rw [bind_eq_error_iff, literal]
    simp
  · next hmember => simp [hmember, hsuits]

/-! ## Expressions -/

/-- At any time the check of an expression fails for its faults only. -/
theorem Expr.check_eq_error_iff (now : Stamp) (e : Expr) (fault : Fault) :
    e.check now = .error fault ↔ e.FailsBy fault := by
  rw [check, bind_eq_error_iff,
    mapM_eq_error_iff_firstFailsBy (checkCondition_eq_error_iff now)]
  simp [FailsBy]

/-- An expression that was read can be checked unless an integer is too large, or a distance is told
in too many digits or in long s. -/
theorem fault_of_read {text : String} {e : Expr} (hread : Expr.read text = .ok e) {fault : Fault}
    (h : e.FailsBy fault) : fault = .numberTooLarge ∨ fault = .unknownUnit 'ſ' ∨
      ∃ n, digitLimit < n ∧ fault = .overlong (.text n) := by
  obtain ⟨before, c, after, hsplit, -, -, values, v, rest, hvalues, -, hv⟩ := h
  have readable := (canonical_of_read hread c (by simp [hsplit])).all v (by simp [hvalues])
  cases hv with
  | tooLarge => exact .inl rfl
  | untold _ text =>
    obtain ⟨d, -, ⟨long⟩ | ⟨-, -⟩⟩ := text
    · exact .inr (.inr ⟨_, long, rfl⟩)
    · exact .inr (.inl rfl)
  | unwritten _ long => exact absurd (readable.symm.trans long) (by simp)

/-! ## Texts -/

variable {now : Stamp} {text : String} {e : Expr}

theorem accept_of_failsBy (hread : Expr.read text = .ok e) {fault : Fault}
    (h : e.FailsBy fault) (now : Stamp) : accept now text = .error fault.toRefusal := by
  simp only [accept, hread, (e.check_eq_error_iff now fault).2 h]

theorem Fault.toRefusal_of_isUnforeseen {fault : Fault} (h : fault.IsUnforeseen) :
    fault.toRefusal = .fault fault := by
  cases fault with
  | overlong o => exact absurd rfl (h o)
  | _ => rfl

theorem Fault.isUnforeseen_of_toRefusal {fault other : Fault} (h : fault.toRefusal = .fault other) :
    fault.IsUnforeseen := by
  rintro o rfl
  cases h

theorem isFaulty_of_accept (hread : Expr.read text = .ok e) {fault : Fault}
    (h : accept now text = .error (.fault fault)) : e.IsFaulty := by
  simp only [accept, hread] at h
  split at h
  · next other hcheck =>
    exact ⟨other, (e.check_eq_error_iff now other).1 hcheck,
      Fault.isUnforeseen_of_toRefusal (Except.error.inj h)⟩
  · split at h <;> cases h

end TaskSieve.Filter
