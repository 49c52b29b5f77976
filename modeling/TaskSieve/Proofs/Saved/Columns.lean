import Mathlib.Data.List.Forall2
import TaskSieve.Proofs.Filter.Checking
import TaskSieve.Proofs.Filter.Rereading
import TaskSieve.Proofs.Filter.Scale
import TaskSieve.Saved.Legacy

set_option autoImplicit false

/-! # Columns mean what a builder means

The text of columns is read as the chain of conditions that a builder makes of the rows, if it keeps
every value as a text: the same fields and operators joined by the same combinator. The values come
back typed, and a typed number compares like the text that it came from, whichever way it was
printed in between. A typed truth value does not always: true is lost in every spelling but one. And
there is no text at all if a value stays a text of so many digits that no integer has as many. -/

namespace TaskSieve

open Calendar (Stamp)

/-! ## Numbers of one size -/

namespace Binary64

/-- Numbers that no comparison tells apart: the same number, or two zeros. -/
inductive SameSize : Binary64 → Binary64 → Prop
  | refl (x : Binary64) : SameSize x x
  | zeros (s s' : Bool) : SameSize (.finite s 0 (-1074)) (.finite s' 0 (-1074))

theorem SameSize.compare?_eq {x y : Binary64} (h : SameSize x y) (z : Binary64) :
    compare? z x = compare? z y := by
  cases h with
  | refl => rfl
  | zeros s s' =>
    have hvalue : value s 0 (-1074) = value s' 0 (-1074) := by cases s <;> cases s' <;> rfl
    cases z with
    | nan => rfl
    | infinite _ => rfl
    | finite _ _ _ => simp only [compare?, hvalue]

end Binary64

namespace Filter

open Binary64 (SameSize)

/-- The form that columns give to a number: an integer, if it is one. -/
def Scalar.ofNumber (x : Binary64) : Scalar :=
  match x.toInt? with
  | some n => .int n
  | none => .num x

/-- A condition with a single value in place of its own. -/
def Condition.withValue (c : Condition) (v : Scalar) : Condition := { c with value := .one v }

namespace Evaluation

/-! ## Values that compare alike -/

/-- Two values that a scale has points for, which stand alike to every point. -/
def Scale.SamePoint (s : Scale) (v w : Scalar) : Prop :=
  ∃ t u, s.wanted v = .ok (some t) ∧ s.wanted w = .ok (some u) ∧ ∀ a, s.order a t = s.order a u

/-- Values with the same point on the scale of a field are taken alike by every condition on it. -/
theorem satisfies_withValue {time : Stamp} {task : Fields} {c : Condition} {v w : Scalar}
    {s : Scale} (hs : ∀ days, Scale.of? time task c.field days = some s) (h : s.SamePoint v w) :
    satisfies time task (c.withValue v) = satisfies time task (c.withValue w) := by
  obtain ⟨t, u, hv, hw, horder⟩ := h
  have compare (d : Datum) : compareValue time task (c.withValue v) d =
      compareValue time task (c.withValue w) d := by
    rw [Scale.compareValue_eq (c := c.withValue v) (hs _),
      Scale.compareValue_eq (c := c.withValue w) (hs _)]
    exact Scale.compares_congr hv hw horder c.operator d
  unfold satisfies
  simp only [compare]
  rfl

/-- Values that name one truth value are taken alike by every condition on a truth field. -/
theorem satisfies_of_boolean {v w : Scalar} {b : Bool} (hv : Coercion.boolean v.toDatum = some b)
    (hw : Coercion.boolean w.toDatum = some b) {c : Condition} (hkind : c.field.kind = .boolean)
    (time : Stamp) (task : Fields) :
    satisfies time task (c.withValue v) = satisfies time task (c.withValue w) := by
  refine satisfies_withValue (s := .truth) (fun days => ?_)
    ⟨b, b, congrArg Except.ok hv, congrArg Except.ok hw, fun _ => rfl⟩
  rw [Scale.of?, hkind]

/-- Two values are numbers of the same size. -/
def SameNumber (v w : Scalar) : Prop :=
  ∃ x y, Coercion.number v.toDatum = .ok (some x) ∧ Coercion.number w.toDatum = .ok (some y) ∧
    SameSize x y

/-- Numbers of the same size are percentages of the same size. -/
theorem SameNumber.percent {v w : Scalar} (h : SameNumber v w) (isFraction : Bool) :
    (Scale.percent isFraction).SamePoint v w := by
  obtain ⟨x, y, hx, hy, hsame⟩ := h
  have wanted {u : Scalar} {z : Binary64} (hz : Coercion.number u.toDatum = .ok (some z)) :
      Coercion.percent u.toDatum =
        .ok (some (Coercion.roundPercent (if 0 < z ∧ z < 1 then z * 100 else z))) := by
    rw [Coercion.percent, hz]
    rfl
  refine ⟨_, _, wanted hx, wanted hy, ?_⟩
  cases hsame with
  | refl => exact fun _ => rfl
  | zeros s s' =>
    have zero : ∀ s, Coercion.roundPercent
        (if 0 < Binary64.finite s 0 (-1074) ∧ Binary64.finite s 0 (-1074) < 1
          then Binary64.finite s 0 (-1074) * 100 else Binary64.finite s 0 (-1074)) =
        .finite s 0 (-1074) := by decide +kernel
    rw [zero, zero]
    exact (SameSize.zeros s s').compare?_eq

/-- Numbers of the same size are taken alike by every condition on a number field. -/
theorem SameNumber.satisfies {v w : Scalar} (h : SameNumber v w) {c : Condition}
    (hkind : c.field.kind = .number) (time : Stamp) (task : Fields) :
    satisfies time task (c.withValue v) = satisfies time task (c.withValue w) := by
  -- percentages have a scale of their own
  by_cases hpercent : c.field = .percentDone
  · refine satisfies_withValue (s := .percent (Fields.has task c.field.taskKey)) (fun days => ?_)
      (h.percent _)
    rw [Scale.of?, hkind]
    exact congrArg some (if_pos hpercent)
  · obtain ⟨x, y, hx, hy, hsame⟩ := h
    refine satisfies_withValue (s := .number) (fun days => ?_) ⟨x, y, hx, hy, hsame.compare?_eq⟩
    rw [Scale.of?, hkind]
    exact congrArg some (if_neg hpercent)

/-- The number that a text writes has the size of what its typed form is read as after printing. -/
theorem sameNumber_reread {value : String} {x : Binary64}
    (h : Decimal.numberOf? value.toList = some x) :
    SameNumber (.text value) (Scalar.ofNumber x).reread := by
  have canonical := Decimal.canonical_of_numberOf? h
  have text : Coercion.number (Scalar.text value).toDatum = .ok (some x) :=
    congrArg Except.ok (Decimal.numberOf?_trim h)
  unfold Scalar.ofNumber
  split
  · next n hint =>
    -- a zero with a sign loses it as an integer
    by_cases hzero : n = 0
    · subst hzero
      obtain ⟨s, rfl⟩ := Binary64.eq_zero_of_toInt? canonical hint
      exact ⟨_, _, text, by decide, .zeros s false⟩
    · refine ⟨x, x, text, ?_, .refl x⟩
      show Coercion.number (.int n) = _
      rw [Coercion.number, Binary64.ofInt?_of_toInt? canonical hint hzero]
  · refine ⟨x, x, text, ?_, .refl x⟩
    rw [Scalar.reread]
    split
    · rfl
    · exact congrArg Except.ok (Decimal.numberOf?_trim (Decimal.numberOf?_text canonical))

end Evaluation

/-! ## Chains alike -/

/-- An expression with empty texts in place of its values: its fields, operators and combinators. -/
def Expr.skeleton (e : Expr) : Expr := e.mapValues fun _ => .text ""

/-- The conditions that are joined by one combinator are those of the chain. -/
theorem conditions_join_map {ι : Type} (k : Combinator) (f : ι → Condition) (first : ι)
    (rest : List ι) :
    ((Expr.leaf (f first)).join ((rest.map f).map (k, ·))).conditions = (first :: rest).map f := by
  rw [Expr.conditions_join, List.map_map]
  exact congrArg _ (List.map_id _)

/-- Chains whose conditions hold alike match alike. -/
theorem matches_join_congr {time : Stamp} {task : Fields} (k : Combinator)
    {rest rest' : List Condition}
    (h : List.Forall₂ (fun c c' => Evaluation.satisfies time task c =
      Evaluation.satisfies time task c') rest rest') {e e' : Expr}
    (he : e.matches time task = e'.matches time task) :
    (e.join (rest.map (k, ·))).matches time task =
      (e'.join (rest'.map (k, ·))).matches time task := by
  -- each condition joins what stands to its left, so that is what the induction generalizes
  induction h generalizing e e' with
  | nil => exact he
  | @cons c c' _ _ hc _ ih =>
    have hnode : (Expr.node k e (.leaf c)).matches time task =
        (Expr.node k e' (.leaf c')).matches time task := by
      cases k <;> simp only [Expr.matches, he, hc]
    exact ih hnode

end Filter

namespace Columns

open TaskSieve.Filter
open TaskSieve.Filter.Evaluation (satisfies)

/-! ## Rows -/

/-- A row: the name of a field, a value, and an operator. -/
abbrev Row := String × String × String

/-- The condition that a builder makes of a row. -/
def condition? (row : Row) (v : Scalar) : Except BuildError Condition :=
  Condition.make row.1 row.2.2 (.one v)

/-- The builder that is told the rows one after another, with every value as a text. -/
def plain (c : Columns) : Except BuildError Builder :=
  c.rows.foldlM (fun b row => (b.joinBy c.joint).where_ row.1 row.2.2 (.one (.text row.2.1))) {}

/-- A row in which true is lost: its value names it, but not in the one spelling that counts. -/
def LosesTruth (row : Row) : Prop :=
  row.1 = "done" ∧ row.2.1 ≠ "true" ∧ Coercion.boolean (.text row.2.1) = some true

instance : DecidablePred LosesTruth := fun row =>
  inferInstanceAs (Decidable (row.1 = "done" ∧ row.2.1 ≠ "true" ∧
    Coercion.boolean (.text row.2.1) = some true))

/-- Which value a condition is made with does not matter for its field and its operator. -/
theorem condition?_withValue {row : Row} {v : Scalar} {p : Condition}
    (h : condition? row v = .ok p) (w : Scalar) : condition? row w = .ok (p.withValue w) := by
  rw [condition?, Condition.make] at h ⊢
  split at h
  · cases h
  split at h
  · cases h
  · cases h
    rfl

theorem withValue_of_condition? {row : Row} {v : Scalar} {p : Condition}
    (h : condition? row v = .ok p) : p.withValue v = p :=
  Except.ok.inj ((condition?_withValue h v).symm.trans h)

theorem resolve?_of_condition? {row : Row} {v : Scalar} {p : Condition}
    (h : condition? row v = .ok p) : Field.resolve? row.1.toList = some p.field := by
  rw [condition?, Condition.make] at h
  split at h
  · cases h
  · next hfield =>
    split at h
    · cases h
    · cases h
      exact hfield

theorem field_of_name {row : Row} {v : Scalar} {p : Condition} (h : condition? row v = .ok p)
    {name : String} {f : Field} (hname : row.1 = name) (hf : Field.resolve? name.toList = some f) :
    p.field = f := by
  have hfield := resolve?_of_condition? h
  rw [hname] at hfield
  exact Option.some.inj (hfield.symm.trans hf)

/-- The value of a row is a number, a truth value, or the text itself. -/
theorem valueOf_cases (field value : String) :
    (∃ x, (field = "priority" ∨ field = "percentDone") ∧
      Decimal.numberOf? value.toList = some x ∧ valueOf field value = .ofNumber x) ∨
    (field = "done" ∧ valueOf field value = .bool (value == "true")) ∨
    (field ≠ "done" ∧ valueOf field value = .text value) := by
  unfold valueOf
  by_cases hnumber : field = "priority" ∨ field = "percentDone"
  · have hdone : field ≠ "done" := by
      rintro rfl
      exact absurd hnumber (by decide)
    rw [if_pos hnumber]
    cases hread : Decimal.numberOf? value.toList with
    | none => exact .inr (.inr ⟨hdone, rfl⟩)
    | some x => exact .inl ⟨x, hnumber, rfl, rfl⟩
  · rw [if_neg hnumber]
    by_cases hdone : field = "done"
    · exact .inr (.inl ⟨hdone, if_pos hdone⟩)
    · exact .inr (.inr ⟨hdone, if_neg hdone⟩)

theorem canonical_valueOf (field value : String) : (valueOf field value).Canonical := by
  rcases valueOf_cases field value with ⟨x, -, hread, heq⟩ | ⟨-, heq⟩ | ⟨-, heq⟩
  · have canonical := Decimal.canonical_of_numberOf? hread
    rw [heq, Scalar.ofNumber]
    split
    · next n hint =>
      by_cases hzero : n = 0
      · subst hzero
        exact (by decide : Overlong.ofInt? 0 = none)
      · exact Overlong.ofInt?_of_binary64 (Binary64.ofInt?_of_toInt? canonical hint hzero)
    · exact canonical
  · rw [heq]
    trivial
  · rw [heq]
    trivial

/-- A row that cannot be printed: its value stays a text, which would be an integer of too many
digits without quotes. -/
def IsOverlong (row : Row) : Prop :=
  valueOf row.1 row.2.1 = .text row.2.1 ∧ (Scalar.text row.2.1).overlong? ≠ none

instance : DecidablePred IsOverlong := fun row =>
  inferInstanceAs (Decidable (valueOf row.1 row.2.1 = .text row.2.1 ∧
    (Scalar.text row.2.1).overlong? ≠ none))

theorem overlong?_valueOf_ne_none_iff {row : Row} :
    (valueOf row.1 row.2.1).overlong? ≠ none ↔ IsOverlong row := by
  constructor
  · intro h
    obtain ⟨o, ho⟩ := Option.ne_none_iff_exists'.1 h
    obtain ⟨s, hs⟩ := (canonical_valueOf row.1 row.2.1).exists_text ho
    have hsame : valueOf row.1 row.2.1 = .text row.2.1 := by
      rcases valueOf_cases row.1 row.2.1 with ⟨x, -, -, heq⟩ | ⟨-, heq⟩ | ⟨-, heq⟩
      · rw [heq, Scalar.ofNumber] at hs
        split at hs <;> cases hs
      · rw [heq] at hs
        cases hs
      · exact heq
    exact ⟨hsame, hsame ▸ h⟩
  · rintro ⟨hsame, hlong⟩
    rwa [hsame]

/-- What a row is read as after it was printed. -/
def rereadValue (row : Row) : Scalar := (valueOf row.1 row.2.1).reread

section
variable {row : Row} {p : Condition} {now : Stamp}

/-- Unless true is lost, the comparison with its one spelling gives the truth value that the text
names. -/
theorem beq_true_of_named {b : Bool} (hname : row.1 = "done") (h : ¬ LosesTruth row)
    (hb : Coercion.boolean (.text row.2.1) = some b) : (row.2.1 == "true") = b := by
  have htrue : Coercion.boolean (.text "true") = some true := by decide
  by_cases hspelled : row.2.1 = "true"
  · rw [hspelled] at hb ⊢
    exact Option.some.inj (htrue.symm.trans hb)
  · cases b with
    | false => exact beq_false_of_ne hspelled
    | true => exact absurd ⟨hname, hspelled, hb⟩ h

/-- A condition that keeps the text of a row is taken alike, unless true is lost in the row. -/
theorem satisfies_of_row (made : condition? row (.text row.2.1) = .ok p)
    (passes : Passes now p.field (.text row.2.1)) (h : ¬ LosesTruth row) (time : Stamp)
    (task : Fields) :
    satisfies time task (p.withValue (rereadValue row)) = satisfies time task p := by
  conv_rhs => rw [← withValue_of_condition? made]
  rcases valueOf_cases row.1 row.2.1 with ⟨x, hnumber, hread, heq⟩ | ⟨hname, heq⟩ | ⟨-, heq⟩
  · have hkind : p.field.kind = .number := by
      rcases hnumber with hname | hname
      · rw [field_of_name made hname (f := .priority) (by decide)]
        rfl
      · rw [field_of_name made hname (f := .percentDone) (by decide)]
        rfl
    rw [rereadValue, heq]
    exact ((Evaluation.sameNumber_reread hread).satisfies hkind time task).symm
  · have hdone : p.field = .done := field_of_name made hname (by decide)
    obtain ⟨b, hb⟩ : ∃ b, Coercion.boolean (.text row.2.1) = some b := by
      have usable := passes.usable (c := p) (by rw [hdone]; decide) (by rw [hdone]; decide)
      rwa [Usable, hdone] at usable
    rw [rereadValue, heq, beq_true_of_named hname h hb]
    exact Evaluation.satisfies_of_boolean (w := .text row.2.1) rfl hb (by rw [hdone]; rfl) time task
  · rw [rereadValue, heq]
    rfl

/-- Where true is lost, a task that is done tells the conditions apart. -/
theorem exists_ne_of_losesTruth (made : condition? row (.text row.2.1) = .ok p)
    (suits : p.operator.suits p.field.kind = true ∨ p.operator.isMembership = true)
    (h : LosesTruth row) : ∃ time task,
      satisfies time task (p.withValue (rereadValue row)) ≠ satisfies time task p := by
  obtain ⟨hname, hspelled, htrue⟩ := h
  have hdone : p.field = .done := field_of_name made hname (by decide)
  have hlost : rereadValue row = .bool false := by
    rw [rereadValue, valueOf, if_neg (by rw [hname]; decide), if_pos hname,
      beq_false_of_ne hspelled]
    rfl
  -- the text counts as the truth value that it names
  have hkept : ∀ time task,
      satisfies time task p = satisfies time task (p.withValue (.bool true)) := by
    intro time task
    conv_lhs => rw [← withValue_of_condition? made]
    exact Evaluation.satisfies_of_boolean (v := .text row.2.1) htrue rfl (by rw [hdone]; rfl) _ _
  have tells : ∀ op : Operator, op.suits .boolean = true ∨ op.isMembership = true →
      satisfies (.ofDay 0 none) [("done", .bool true)] ⟨.done, op, .one (.bool false)⟩ ≠
        satisfies (.ofDay 0 none) [("done", .bool true)] ⟨.done, op, .one (.bool true)⟩ := by
    intro op hop
    cases op with
    | eq | ne | isIn | notIn => decide
    | gt | ge | lt | le | like => exact absurd hop (by decide)
  refine ⟨.ofDay 0 none, [("done", .bool true)], ?_⟩
  rw [hkept, hlost, Condition.withValue, Condition.withValue, hdone]
  rw [hdone] at suits
  exact tells p.operator suits

/-- The condition that comes back for a row is taken otherwise than the one that keeps its text
exactly if true is lost in the row. -/
theorem losesTruth_iff (made : condition? row (.text row.2.1) = .ok p)
    (passes : Passes now p.field (.text row.2.1))
    (suits : p.operator.suits p.field.kind = true ∨ p.operator.isMembership = true) :
    LosesTruth row ↔ ∃ time task,
      satisfies time task (p.withValue (rereadValue row)) ≠ satisfies time task p := by
  refine ⟨exists_ne_of_losesTruth made suits, ?_⟩
  rintro ⟨time, task, hne⟩
  by_contra h
  exact hne (satisfies_of_row made passes h time task)

end

/-! ## Chains -/

/-- The columns hold the rows of some conditions, which keep the texts of the rows. -/
structure Holds (c : Columns) (first : Row × Condition) (rest : List (Row × Condition)) : Prop where
  rows : c.rows = (first :: rest).map Prod.fst
  made : ∀ x ∈ first :: rest, condition? x.1 (.text x.1.2.1) = .ok x.2

/-- A builder that was told the rows holds the chain of their conditions. -/
theorem holds_of_plain {c : Columns} {b : Builder} {e : Expr} (built : c.plain = .ok b)
    (he : b.expr = some e) : ∃ first rest, c.Holds first rest ∧
      e = (Expr.leaf first.2).join ((rest.map Prod.snd).map (c.joint, ·)) := by
  obtain ⟨conditions, hmake, rfl⟩ := foldlM_map_eq_ok_iff.1 built
  obtain ⟨pairs, hrows, rfl, made⟩ := exists_pairs_of_mapM_eq_ok hmake
  cases pairs with
  | nil => cases he
  | cons first rest =>
    refine ⟨first, rest, ⟨hrows.symm, made⟩, ?_⟩
    rw [List.map_cons, Builder.expr_joined] at he
    exact (Option.some.inj he).symm

/-- The condition that is printed for a row. -/
def typed (x : Row × Condition) : Condition := x.2.withValue (valueOf x.1.1 x.1.2.1)

/-- The condition that comes back for a row. -/
def reread (x : Row × Condition) : Condition := x.2.withValue (rereadValue x.1)

section
variable {c : Columns} {first : Row × Condition} {rest : List (Row × Condition)}

theorem Holds.conditions_eq (h : c.Holds first rest) :
    c.conditions = .ok ((first :: rest).map typed) := by
  refine mapM_eq_ok_iff.2 ?_
  rw [h.rows, List.map_map, List.map_map]
  exact List.map_congr_left fun x hx => condition?_withValue (h.made x hx) _

/-- The text of columns is that of the chain of their conditions. -/
theorem Holds.print_eq (h : c.Holds first rest) : c.print =
    ((Expr.leaf (typed first)).join ((rest.map typed).map (c.joint, ·))).print.mapError
      .unprintable := by
  have ne_nil : ∀ p ∈ typed first :: rest.map typed, p.value ≠ .many [] := by
    rw [← List.map_cons, List.forall_mem_map]
    exact fun _ _ => Literal.noConfusion
  rw [print, h.conditions_eq, List.map_cons, ok_bind, Builder.joinAll_eq ne_nil]

/-- A chain of rows can be written if each of the rows can. -/
theorem Holds.overlong?_eq_none_iff (h : c.Holds first rest) :
    ((Expr.leaf (typed first)).join ((rest.map typed).map (c.joint, ·))).overlong? = none ↔
      ∀ row ∈ c.rows, ¬ IsOverlong row := by
  rw [Expr.overlong?_eq_none_iff, conditions_join_map, h.rows, List.forall_mem_map,
    List.forall_mem_map]
  refine forall₂_congr fun x _ => ?_
  rw [← overlong?_valueOf_ne_none_iff, not_not, Literal.overlong?_eq_none_iff]
  exact List.forall_mem_singleton

/-- The text of columns is read as the chain of the conditions that come back for the rows. -/
theorem Holds.read_print (h : c.Holds first rest) (short : ∀ row ∈ c.rows, ¬ IsOverlong row) :
    ∃ text, c.print = .ok text ∧ Expr.read text =
      .ok ((Expr.leaf (reread first)).join ((rest.map reread).map (c.joint, ·))) := by
  have reads (x : Row × Condition) : (typed x).value.ReadsBy Scalar.reread := by
    refine ⟨Literal.noConfusion, fun v hv => ?_⟩
    obtain rfl := List.mem_singleton.1 hv
    exact readsAs_reread (canonical_valueOf _ _)
  have hsteps : ∀ step ∈ (rest.map typed).map (c.joint, ·), step.2.value.ReadsBy Scalar.reread := by
    intro step hstep
    obtain ⟨_, hmem, rfl⟩ := List.mem_map.1 hstep
    obtain ⟨x, -, rfl⟩ := List.mem_map.1 hmem
    exact reads x
  refine ⟨_, ?_, (read_canonical_mapValues (reads first) hsteps).trans ?_⟩
  · rw [h.print_eq, Expr.print_join, h.overlong?_eq_none_iff.2 short]
    rfl
  · rw [mapSteps, List.map_map, List.map_map, List.map_map]
    rfl

/-- Columns with a row that cannot be printed have no text. -/
theorem Holds.print_eq_error (h : c.Holds first rest) (long : ∃ row ∈ c.rows, IsOverlong row) :
    ∃ o, c.print = .error (.unprintable (.overlong o)) := by
  have found : ((Expr.leaf (typed first)).join
      ((rest.map typed).map (c.joint, ·))).overlong? ≠ none := by
    rw [Ne, h.overlong?_eq_none_iff]
    simpa using long
  obtain ⟨o, ho⟩ := Option.ne_none_iff_exists'.1 found
  refine ⟨o, ?_⟩
  rw [h.print_eq, Expr.print_join, ho]
  rfl

/-- What comes back has the fields, operators and combinators of the chain that keeps the texts. -/
theorem Holds.skeleton_eq (h : c.Holds first rest) :
    ((Expr.leaf (reread first)).join ((rest.map reread).map (c.joint, ·))).skeleton =
      ((Expr.leaf first.2).join ((rest.map Prod.snd).map (c.joint, ·))).skeleton := by
  have same : ∀ x ∈ first :: rest,
      (reread x).mapValues (fun _ => .text "") = x.2.mapValues fun _ => .text "" := by
    intro x hx
    rw [← withValue_of_condition? (h.made x hx)]
    rfl
  rw [Expr.skeleton, Expr.skeleton, Expr.mapValues_join, Expr.mapValues_join, Expr.mapValues,
    Expr.mapValues, same first List.mem_cons_self]
  simp only [mapSteps, List.map_map]
  refine congrArg _ (List.map_congr_left fun x hx => ?_)
  exact congrArg (Prod.mk c.joint) (same x (List.mem_cons_of_mem first hx))

end

/-- Columns whose rows make an expression without errors have a text, unless one of the rows cannot
be printed, and it is read as the same chain of fields, operators and combinators. A row stands for
another condition exactly if it names true for the field of truth in another spelling than `true`;
if none does, the chains match the same tasks at every time. -/
theorem print_reads_as_plain {c : Columns} {b : Builder} {e : Expr} {now : Stamp} {r : Report}
    (built : c.plain = .ok b) (he : b.expr = some e) (checked : e.check now = .ok r)
    (valid : r.valid = true) :
    ((∀ row ∈ c.rows, ¬ IsOverlong row) →
      ∃ text e', c.print = .ok text ∧ Expr.read text = .ok e' ∧ e'.skeleton = e.skeleton ∧
        List.Forall₂ (fun row both => LosesTruth row ↔ ∃ time task,
          satisfies time task both.1 ≠ satisfies time task both.2)
          c.rows (e'.conditions.zip e.conditions) ∧
        ((∀ row ∈ c.rows, ¬ LosesTruth row) →
          ∀ time task, e'.matches time task = e.matches time task)) ∧
    ((∃ row ∈ c.rows, IsOverlong row) →
      ∃ o, c.print = .error (.unprintable (.overlong o))) := by
  obtain ⟨first, rest, holds, rfl⟩ := holds_of_plain built he
  refine ⟨fun short => ?_, holds.print_eq_error⟩
  obtain ⟨text, hprint, hread⟩ := holds.read_print short
  have hconditions := conditions_join_map c.joint Prod.snd first rest
  have member : ∀ x ∈ first :: rest,
      x.2 ∈ ((Expr.leaf first.2).join ((rest.map Prod.snd).map (c.joint, ·))).conditions :=
    fun x hx => hconditions ▸ List.mem_map_of_mem hx
  have passes : ∀ x ∈ first :: rest, Passes now x.2.field (.text x.1.2.1) := by
    intro x hx
    refine passes_of_check checked valid x.2 (member x hx) _ ?_
    rw [← withValue_of_condition? (holds.made x hx)]
    exact List.mem_singleton_self _
  refine ⟨text, _, hprint, hread, holds.skeleton_eq, ?_, fun kept time task => ?_⟩
  · rw [conditions_join_map, hconditions, holds.rows, List.zip_map', List.forall₂_map_left_iff,
      List.forall₂_map_right_iff, List.forall₂_same]
    exact fun x hx => losesTruth_iff (holds.made x hx) (passes x hx)
      (suits_of_check checked valid x.2 (member x hx))
  · have alike : ∀ x ∈ first :: rest, satisfies time task (reread x) = satisfies time task x.2 := by
      intro x hx
      have hrow : x.1 ∈ c.rows := holds.rows ▸ List.mem_map_of_mem hx
      exact satisfies_of_row (holds.made x hx) (passes x hx) (kept x.1 hrow) time task
    refine matches_join_congr c.joint ?_ (alike first List.mem_cons_self)
    rw [List.forall₂_map_left_iff, List.forall₂_map_right_iff, List.forall₂_same]
    exact fun x hx => alike x (List.mem_cons_of_mem first hx)

/-- Numbers with powers of ten come back as the numbers of their texts, and a row without a value is
left out. True comes back as true from one spelling and as false from another. -/
theorem print_reads_as_plain_of_spellings :
    (∃ text e', print ⟨["priority", "done", "title", "percentDone"], ["1e2", "true", "", "0.00001"],
        ["=", "!=", "=", ">="], some "||"⟩ = .ok text ∧ Expr.read text = .ok e' ∧
      text = "priority = 100 || done != true || percentDone >= 1e-05" ∧
      ∀ time task, e'.matches time task = Expr.matches time task
        (.node .or (.node .or (.leaf ⟨.priority, .eq, .one (.text "1e2")⟩)
          (.leaf ⟨.done, .ne, .one (.text "true")⟩))
          (.leaf ⟨.percentDone, .ge, .one (.text "0.00001")⟩))) ∧
    ∃ text e', print ⟨["done"], ["TRUE"], ["="], none⟩ = .ok text ∧ Expr.read text = .ok e' ∧
      text = "done = false" ∧ ∃ time task, e'.matches time task ≠
        Expr.matches time task (.leaf ⟨.done, .eq, .one (.text "TRUE")⟩) := by
  constructor
  · obtain ⟨text, e', hprint, hread, -, -, hmatches⟩ := (print_reads_as_plain
      (c := ⟨["priority", "done", "title", "percentDone"], ["1e2", "true", "", "0.00001"],
        ["=", "!=", "=", ">="], some "||"⟩)
      (b := ⟨some (.node .or (.node .or (.leaf ⟨.priority, .eq, .one (.text "1e2")⟩)
        (.leaf ⟨.done, .ne, .one (.text "true")⟩))
        (.leaf ⟨.percentDone, .ge, .one (.text "0.00001")⟩)), none⟩)
      (r := ⟨[], ["Value 1e2 for field 'priority' is outside the range 0-5"]⟩)
      (by decide +kernel) rfl
      (show Expr.check (.ofDay 738000 none) _ = _ by decide +kernel) rfl).1 (by decide +kernel)
    refine ⟨text, e', hprint, hread, ?_, hmatches (by decide +kernel)⟩
    exact Except.ok.inj (hprint.symm.trans (by decide +kernel))
  · obtain ⟨text, e', hprint, hread, -, hrows, -⟩ := (print_reads_as_plain
      (c := ⟨["done"], ["TRUE"], ["="], none⟩)
      (b := ⟨some (.leaf ⟨.done, .eq, .one (.text "TRUE")⟩), none⟩)
      (r := {}) (by decide +kernel) rfl
      (show Expr.check (.ofDay 738000 none) _ = _ by decide +kernel) rfl).1 (by decide +kernel)
    have htext : text = "done = false" :=
      Except.ok.inj (hprint.symm.trans (by decide +kernel))
    have he' : e' = .leaf ⟨.done, .eq, .one (.bool false)⟩ := by
      rw [htext] at hread
      exact Except.ok.inj (hread.symm.trans (by decide +kernel))
    subst he'
    refine ⟨text, _, hprint, hread, htext, ?_⟩
    cases hrows with
    | cons lost _ => exact lost.1 (by decide +kernel)

end Columns

end TaskSieve
