import TaskSieve.Filter.Check
import TaskSieve.Filter.Evaluation
import TaskSieve.Proofs.Except
import TaskSieve.Proofs.Number.Decimal
import TaskSieve.Proofs.Number.Overlong

set_option autoImplicit false

/-! # What a check promises

A check and the evaluation look at the values of a condition one after the other, each on its own.
Whatever passes the check has a form that the evaluation can use, except for some texts that are
taken for ids, and integers of too many digits that are compared as texts. -/

namespace TaskSieve.Filter

open TaskSieve.Calendar

/-! ## Reports without errors -/

namespace Report

theorem valid_append (a b : Report) : (a ++ b).valid = true ↔ a.valid = true ∧ b.valid = true := by
  change (a.errors ++ b.errors).isEmpty = true ↔ _
  rw [valid, valid, List.isEmpty_iff, List.isEmpty_iff, List.isEmpty_iff, List.append_eq_nil_iff]

theorem valid_concat (rs : List Report) : (concat rs).valid = true ↔ ∀ r ∈ rs, r.valid = true := by
  induction rs with
  | nil => simp [concat, valid]
  | cons r rs ih =>
    rw [List.forall_mem_cons, ← ih]
    exact valid_append r (concat rs)

theorem not_valid_error (text : String) : (error text).valid = false := rfl

/-- What is unexpected in a field is an error. -/
theorem not_valid_unexpected {f : Field} {v : Scalar} {form : String} {r : Report}
    (h : Check.unexpected f v form = .ok r) : r.valid = false := by
  obtain ⟨_, -, hr⟩ := bind_eq_ok_iff.1 h
  obtain rfl := Except.ok.inj hr
  rfl

end Report

/-! ## Values that passed -/

/-- A check passes a value of a field. -/
def Passes (now : Stamp) (f : Field) (v : Scalar) : Prop :=
  ∃ r, Check.checkValue now f v = .ok r ∧ r.valid = true

theorem passes_of_checkLiteral {now : Stamp} {c : Condition} {r : Report}
    (h : Check.checkLiteral now c = .ok r) (valid : r.valid = true) :
    ∀ v ∈ c.value.values, Passes now c.field v := by
  obtain ⟨f, op, value⟩ := c
  cases value with
  | many vs =>
    simp only [Check.checkLiteral] at h
    split at h
    · obtain ⟨rs, hrs, hr⟩ := bind_eq_ok_iff.1 h
      obtain rfl := Except.ok.inj hr
      intro v hv
      obtain ⟨r', hmem, hr'⟩ := exists_of_mapM_eq_ok hrs hv
      exact ⟨r', hr', (Report.valid_concat rs).1 valid r' hmem⟩
    · obtain rfl := Except.ok.inj h
      exact absurd valid (by simp [Report.not_valid_error])
  | one v =>
    obtain ⟨r', hr', hr⟩ := bind_eq_ok_iff.1 h
    intro u hu
    obtain rfl := List.mem_singleton.1 hu
    refine ⟨r', hr', ?_⟩
    split at hr
    · obtain rfl := Except.ok.inj hr
      exact ((Report.valid_append _ _).1 valid).2
    · obtain rfl := Except.ok.inj hr
      exact valid

theorem passes_of_checkCondition {now : Stamp} {c : Condition} {r : Report}
    (h : Check.checkCondition now c = .ok r) (valid : r.valid = true) :
    ∀ v ∈ c.value.values, Passes now c.field v := by
  unfold Check.checkCondition at h
  split at h
  · exact passes_of_checkLiteral h valid
  split at h
  · obtain ⟨r', hr', hr⟩ := bind_eq_ok_iff.1 h
    obtain rfl := Except.ok.inj hr
    exact passes_of_checkLiteral hr' ((Report.valid_append _ _).1 valid).2
  · obtain rfl := Except.ok.inj h
    exact absurd valid (by simp [Report.not_valid_error])

/-- An expression without errors has only conditions without errors. -/
theorem exists_report_of_check {now : Stamp} {e : Expr} {r : Report} (h : e.check now = .ok r)
    (valid : r.valid = true) :
    ∀ c ∈ e.conditions, ∃ r, Check.checkCondition now c = .ok r ∧ r.valid = true := by
  obtain ⟨rs, hrs, hr⟩ := bind_eq_ok_iff.1 h
  have all : (Report.concat rs).valid = true := by
    obtain rfl := Except.ok.inj hr
    split at valid
    · exact ((Report.valid_append _ _).1 valid).1
    · exact valid
  intro c hc
  obtain ⟨r', hmem, hr'⟩ := exists_of_mapM_eq_ok hrs hc
  exact ⟨r', hr', (Report.valid_concat rs).1 all r' hmem⟩

/-- An expression without errors has only values that passed. -/
theorem passes_of_check {now : Stamp} {e : Expr} {r : Report} (h : e.check now = .ok r)
    (valid : r.valid = true) : ∀ c ∈ e.conditions, ∀ v ∈ c.value.values, Passes now c.field v := by
  intro c hc
  obtain ⟨r', hr', valid'⟩ := exists_report_of_check h valid c hc
  exact passes_of_checkCondition hr' valid'

/-- In an expression without errors every operator suits its field, or asks for membership. -/
theorem suits_of_check {now : Stamp} {e : Expr} {r : Report} (h : e.check now = .ok r)
    (valid : r.valid = true) : ∀ c ∈ e.conditions,
      c.operator.suits c.field.kind = true ∨ c.operator.isMembership = true := by
  intro c hc
  obtain ⟨r', hr', valid'⟩ := exists_report_of_check h valid c hc
  by_contra hneither
  rw [not_or] at hneither
  rw [Check.checkCondition, if_neg hneither.1, if_neg hneither.2] at hr'
  obtain rfl := Except.ok.inj hr'
  exact absurd valid' (by simp [Report.not_valid_error])

/-! ## Values that can be used -/

/-- The evaluation of a condition finds a value in the form of the field. -/
def Usable (now : Stamp) (c : Condition) (v : Scalar) : Prop :=
  match c.field.kind with
  | .boolean => ∃ b, Coercion.boolean v.toDatum = some b
  | .number =>
    if c.field = .percentDone then ∃ x, Coercion.percent v.toDatum = .ok (some x)
    else ∃ x, Coercion.number v.toDatum = .ok (some x)
  | .date => ∃ n, Evaluation.placeOf now (Evaluation.asksDays c.value) v.toDatum = .ok (some n)
  | .string => ∃ s, Coercion.text v = .ok s
  | .array => ∃ i, Coercion.id v.toDatum = .ok (some i)

/-- A text that is blank, or that looks like a number and is none that can be read: figures behind
minus signs, with a second sign, with a figure that is no decimal digit, or too many of them. -/
def IsBrokenId (s : String) : Prop :=
  Text.trim s.toList = [] ∨ ∃ k ds, Text.trim s.toList = List.replicate k '-' ++ ds ∧ ds ≠ [] ∧
    (∀ d ∈ ds, Text.isFigure d = true) ∧
    (2 ≤ k ∨ (∃ d ∈ ds, Text.isDigit d = false) ∨ digitLimit < ds.length)

theorem dropWhile_minus {k : Nat} {ds : List Char} (figures : ∀ d ∈ ds, Text.isFigure d = true) :
    (List.replicate k '-' ++ ds).dropWhile (· == '-') = ds := by
  rw [List.dropWhile_append_of_pos]
  · refine Text.dropWhile_of_head? fun d hd => ?_
    have := Text.ne_minus_of_isFigure (figures d (List.mem_of_mem_head? hd))
    simpa using this
  · intro d hd
    rw [List.eq_of_mem_replicate hd]
    rfl

theorem exists_minus (cs : List Char) :
    ∃ k, cs = List.replicate k '-' ++ cs.dropWhile (· == '-') := by
  refine ⟨(cs.takeWhile (· == '-')).length, ?_⟩
  have signs : cs.takeWhile (· == '-') = List.replicate (cs.takeWhile (· == '-')).length '-' :=
    List.eq_replicate_iff.2 ⟨rfl, fun c hc => by simpa using List.mem_takeWhile_imp hc⟩
  rw [← signs, List.takeWhile_append_dropWhile]

/-- Figures behind minus signs are broken by a second sign, by a figure that is no digit, or by
their number. -/
theorem isBrokenId_iff_of_figures {s : String} {k : Nat} {ds : List Char}
    (hs : Text.trim s.toList = List.replicate k '-' ++ ds) (hne : ds ≠ [])
    (figures : ∀ d ∈ ds, Text.isFigure d = true) :
    IsBrokenId s ↔ 2 ≤ k ∨ (∃ d ∈ ds, Text.isDigit d = false) ∨ digitLimit < ds.length := by
  constructor
  · rintro (hblank | ⟨k', ds', hs', -, figures', hbad⟩)
    · exact absurd (List.append_eq_nil_iff.1 (hs.symm.trans hblank)).2 hne
    · -- a text has only one part of minus signs and one of figures
      have hsame : List.replicate k '-' ++ ds = List.replicate k' '-' ++ ds' := hs.symm.trans hs'
      have heq : ds = ds' := by
        rw [← dropWhile_minus (k := k) figures, hsame, dropWhile_minus figures']
      subst heq
      have hlength := congrArg List.length hsame
      simp only [List.length_append, List.length_replicate] at hlength
      obtain rfl : k = k' := by omega
      exact hbad
  · exact fun hbad => .inr ⟨k, ds, hs, hne, figures, hbad⟩

/-- A text with more than figures behind its minus signs is not broken. -/
theorem not_isBrokenId_of_name {s : String} (hne : Text.trim s.toList ≠ [])
    (name : ¬ ((Text.trim s.toList).dropWhile (· == '-') ≠ [] ∧
      ∀ d ∈ (Text.trim s.toList).dropWhile (· == '-'), Text.isFigure d = true)) :
    ¬ IsBrokenId s := by
  rintro (hblank | ⟨k, ds, hs, hds, figures, -⟩)
  · exact hne hblank
  · refine name ?_
    rw [hs, dropWhile_minus figures]
    exact ⟨hds, figures⟩

/-- The digits of an integer are counted behind its sign. -/
theorem overlongInteger?_of_digits {k : Nat} {ds : List Char} (sign : k ≤ 1) (hne : ds ≠ [])
    (digits : ∀ d ∈ ds, Text.isDigit d = true) :
    Coercion.overlongInteger? (List.replicate k '-' ++ ds) = Overlong.ofDigits? ds.length := by
  have unsigned : (Decimal.takeSign (List.replicate k '-' ++ ds)).2 = ds := by
    match k, sign with
    | 0, _ =>
      obtain ⟨d, ds, rfl⟩ := List.exists_cons_of_ne_nil hne
      have hd := digits d List.mem_cons_self
      rw [List.replicate_zero, List.nil_append, Decimal.takeSign.eq_3]
      · rintro _ heq
        exact absurd hd ((List.cons.inj heq).1 ▸ by decide)
      · rintro _ heq
        exact absurd hd ((List.cons.inj heq).1 ▸ by decide)
    | 1, _ => rfl
  rw [Coercion.overlongInteger?, unsigned, List.takeWhile_eq_self_iff.2 digits]

/-- Figures behind minus signs are an id if they are an integer of not too many digits. -/
theorem exists_id_of_figures {k : Nat} {ds cs : List Char} (hcs : cs = List.replicate k '-' ++ ds)
    (hne : ds ≠ []) (figures : ∀ d ∈ ds, Text.isFigure d = true)
    (trimmed : Text.trimWhile Text.isSpace cs = cs) :
    (Coercion.overlongInteger? cs = none ∧ ∃ n, Decimal.integerOf? cs = some n) ↔
      ¬ (2 ≤ k ∨ (∃ d ∈ ds, Text.isDigit d = false) ∨ digitLimit < ds.length) := by
  subst hcs
  have integer := Decimal.isSome_integerOf? hne figures trimmed
  rw [← Option.isSome_iff_exists, integer]
  constructor
  · rintro ⟨short, sign, digits⟩ (hsign | ⟨d, hd, hdigit⟩ | hlong)
    · omega
    · exact absurd (digits d hd) (by simp [hdigit])
    · rw [overlongInteger?_of_digits sign hne digits, Overlong.ofDigits?_eq_none_iff] at short
      omega
  · intro h
    rw [not_or, not_or] at h
    obtain ⟨hsign, hdigits, hshort⟩ := h
    have sign : k ≤ 1 := by omega
    have digits : ∀ d ∈ ds, Text.isDigit d = true := by
      intro d hd
      rw [← Bool.not_eq_false]
      exact fun hdigit => hdigits ⟨d, hd, hdigit⟩
    rw [overlongInteger?_of_digits sign hne digits, Overlong.ofDigits?_eq_none_iff]
    exact ⟨by omega, sign, digits⟩

/-- A text is an id unless it is blank or a number gone wrong. -/
theorem textId_eq_ok_some_iff (s : String) :
    (∃ i, Coercion.textId s = .ok (some i)) ↔ ¬ IsBrokenId s := by
  have trimmed : Text.trimWhile Text.isSpace (Text.trim s.toList) = Text.trim s.toList :=
    Text.trimWhile_trimWhile fun _ => Text.isBlank_of_isSpace
  obtain ⟨k, hk⟩ := exists_minus (Text.trim s.toList)
  have broken := isBrokenId_iff_of_figures hk
  have named := not_isBrokenId_of_name (s := s)
  have blank : Text.trim s.toList = [] → IsBrokenId s := .inl
  unfold Coercion.textId
  generalize Text.trim s.toList = cs at trimmed hk broken named blank ⊢
  dsimp only
  generalize cs.dropWhile (· == '-') = ds at hk broken named ⊢
  by_cases hempty : cs = []
  · rw [if_pos (by simp [hempty])]
    exact ⟨fun h => absurd h (by simp), fun h => absurd (blank hempty) h⟩
  rw [if_neg (by simpa using hempty)]
  by_cases hfigures : ds ≠ [] ∧ ∀ d ∈ ds, Text.isFigure d = true
  · obtain ⟨hne, figures⟩ := hfigures
    rw [if_pos ⟨hne, List.all_eq_true.2 figures⟩, broken hne figures,
      ← exists_id_of_figures hk hne figures trimmed]
    cases Coercion.overlongInteger? cs with
    | some o => simp
    | none => cases Decimal.integerOf? cs <;> simp
  · have hname : ¬ (ds ≠ [] ∧ ds.all Text.isFigure = true) := by
      rwa [List.all_eq_true]
    rw [if_neg hname]
    exact ⟨fun _ => named hempty hfigures, fun _ => ⟨.name (String.ofList cs), rfl⟩⟩

/-! ## Forms of a value -/

theorem exists_percent {d : Datum} {x : Binary64} (h : Coercion.number d = .ok (some x)) :
    ∃ y, Coercion.percent d = .ok (some y) :=
  ⟨_, bind_eq_ok_iff.2 ⟨some x, h, rfl⟩⟩

theorem exists_placeOf {now s : Stamp} {days : Bool} {d : Datum}
    (h : Coercion.moment now d = .ok (some s)) :
    ∃ n, Evaluation.placeOf now days d = .ok (some n) :=
  ⟨_, bind_eq_ok_iff.2 ⟨some s, h, rfl⟩⟩

/-- What passes for an id is one, unless it is a broken text. -/
theorem exists_id_iff {v : Scalar} (h : Check.isIdLike v = true) :
    (∃ i, Coercion.id v.toDatum = .ok (some i)) ↔ ¬ ∃ s, v = .text s ∧ IsBrokenId s := by
  match v, h with
  | .int n, _ => exact ⟨fun _ ⟨s, hs, _⟩ => absurd hs (by simp), fun _ => ⟨.number n, rfl⟩⟩
  | .text s, _ =>
    refine (textId_eq_ok_some_iff s).trans (not_congr ⟨fun h => ⟨s, rfl, h⟩, ?_⟩)
    rintro ⟨s', hs, hbroken⟩
    exact Scalar.text.inj hs ▸ hbroken

/-- A value is compared as a text unless it is an integer of too many digits. -/
theorem exists_text_iff (v : Scalar) : (∃ s, Coercion.text v = .ok s) ↔
    ¬ ∃ n, v = .int n ∧ digitLimit < Decimal.width n.natAbs := by
  cases v with
  | int n =>
    have htext : Coercion.text (.int n) =
        (Overlong.guard (Overlong.ofInt? n) (integerText n)).mapError .overlong := rfl
    have long : (∃ m, Scalar.int n = .int m ∧ digitLimit < Decimal.width m.natAbs) ↔
        digitLimit < Decimal.width n.natAbs := by simp
    rw [htext, long, Nat.not_lt, ← Overlong.ofInt?_eq_none_iff]
    cases Overlong.ofInt? n <;> simp [Overlong.guard, Except.mapError]
  | bool _ | num _ | text _ => exact iff_of_true ⟨_, rfl⟩ (by simp)

/-- A value that passes in a field of truth values, numbers or dates can be used. -/
theorem Passes.usable {now : Stamp} {c : Condition} {v : Scalar} (h : Passes now c.field v)
    (hstring : c.field.kind ≠ .string) (harray : c.field.kind ≠ .array) : Usable now c v := by
  obtain ⟨r, hr, valid⟩ := h
  unfold Usable
  cases hkind : c.field.kind with
  | boolean =>
    simp only [Check.checkValue, hkind] at hr
    split at hr
    · next hsome => exact Option.isSome_iff_exists.1 hsome
    · exact absurd valid (by simp [Report.not_valid_unexpected hr])
  | number =>
    simp only [Check.checkValue, hkind] at hr
    obtain ⟨found, hfound, hr⟩ := bind_eq_ok_iff.1 hr
    cases found with
    | none => exact absurd valid (by simp [Report.not_valid_unexpected hr])
    | some x =>
      dsimp only
      -- percentages are numbers on another scale
      split
      · exact exists_percent hfound
      · exact ⟨x, hfound⟩
  | date =>
    simp only [Check.checkValue, hkind] at hr
    obtain ⟨found, hfound, hr⟩ := bind_eq_ok_iff.1 hr
    cases found with
    | none => exact absurd valid (by simp [Report.not_valid_unexpected hr])
    | some s => exact exists_placeOf hfound
  | string => exact absurd hkind hstring
  | array => exact absurd hkind harray

/-- What passes in a field of a kind and still cannot be used: a broken text that stands for an id,
and an integer that is compared as a text but has too many digits for one. -/
inductive Scalar.Unusable (k : Kind) : Scalar → Prop
  | brokenId {s : String} (kind : k = .array) (broken : IsBrokenId s) : Unusable k (.text s)
  | longInteger {n : Int} (kind : k = .string) (long : digitLimit < Decimal.width n.natAbs) :
      Unusable k (.int n)

/-- A value that passed can be used, with these exceptions. -/
theorem Passes.usable_iff {now : Stamp} {c : Condition} {v : Scalar} (h : Passes now c.field v) :
    Usable now c v ↔ ¬ v.Unusable c.field.kind := by
  cases hkind : c.field.kind with
  | boolean | number | date =>
    refine iff_of_true (h.usable (by simp [hkind]) (by simp [hkind])) ?_
    rintro (⟨kind, -⟩ | ⟨kind, -⟩) <;> cases kind
  | string =>
    have hlong : v.Unusable .string ↔ ∃ n, v = .int n ∧ digitLimit < Decimal.width n.natAbs := by
      constructor
      · rintro (⟨kind, -⟩ | ⟨-, long⟩)
        · cases kind
        · exact ⟨_, rfl, long⟩
      · rintro ⟨n, rfl, long⟩
        exact .longInteger rfl long
    simp only [Usable, hkind]
    rw [exists_text_iff, hlong]
  | array =>
    obtain ⟨r, hr, valid⟩ := h
    have hbroken : v.Unusable .array ↔ ∃ s, v = .text s ∧ IsBrokenId s := by
      constructor
      · rintro (⟨-, broken⟩ | ⟨kind, -⟩)
        · exact ⟨_, rfl, broken⟩
        · cases kind
      · rintro ⟨s, rfl, broken⟩
        exact .brokenId rfl broken
    simp only [Check.checkValue, hkind] at hr
    simp only [Usable, hkind]
    split at hr
    · next hid => rw [exists_id_iff hid, hbroken]
    · exact absurd valid (by simp [Report.not_valid_unexpected hr])

/-- Every value of an expression without errors can be used at the same time, whatever its field,
but for the blank and broken texts that pass for ids and the integers that are too long for
texts. -/
theorem usable_iff_of_valid {now : Stamp} {e : Expr} {r : Report} (h : e.check now = .ok r)
    (valid : r.valid = true) : ∀ c ∈ e.conditions, ∀ v ∈ c.value.values,
      Usable now c v ↔ ¬ v.Unusable c.field.kind :=
  fun c hc v hv => (passes_of_check h valid c hc v hv).usable_iff

/-- A superscript passes next to a digit, and only the digit is an id. -/
theorem usable_iff_of_superscript :
    Usable (.ofDay 738000 none) ⟨.labels, .isIn, .many [.text "7", .text "²"]⟩ (.text "7") ∧
      ¬ Usable (.ofDay 738000 none) ⟨.labels, .isIn, .many [.text "7", .text "²"]⟩ (.text "²") := by
  have checked : (Expr.leaf ⟨.labels, .isIn, .many [.text "7", .text "²"]⟩).check
      (.ofDay 738000 none) = .ok {} := rfl
  have key := usable_iff_of_valid checked rfl _ (List.mem_singleton_self _)
  constructor
  · refine (key (.text "7") (by decide)).2 ?_
    rintro (⟨-, hblank | ⟨k, ds, htext, -, -, hbad⟩⟩ | ⟨hkind, -⟩)
    · exact absurd hblank (by decide)
    · cases k with
      | zero =>
        have hds : ['7'] = ds := htext
        subst hds
        rcases hbad with hsign | ⟨d, hd, hdigit⟩ | hlong
        · exact absurd hsign (by decide)
        · rw [List.mem_singleton.1 hd] at hdigit
          exact absurd hdigit (by decide)
        · exact absurd hlong (by decide)
      | succ k => exact absurd (List.cons.inj htext).1 (by decide)
  · intro husable
    have figures : ∀ d ∈ ['²'], Text.isFigure d = true := List.all_eq_true.1 (by decide)
    exact (key (.text "²") (by decide)).1 husable (.brokenId rfl (.inr ⟨0, ['²'], by decide,
      by decide, figures, .inr (.inl ⟨'²', List.mem_singleton_self _, by decide⟩)⟩))

end TaskSieve.Filter
