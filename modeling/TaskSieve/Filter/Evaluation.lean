import TaskSieve.Filter.Coercion

set_option autoImplicit false

/-! # Evaluating filter expressions

Whether a task matches an expression. A condition on a field that the task does not carry, or
whose value has not the form of the field, holds for no operator; neither does a condition with a
fault. -/

namespace TaskSieve.Filter

open TaskSieve.Calendar

namespace Evaluation

/-- The value of a field in a task: under the key of payloads, or under the name in filters if the
former key is absent. Null is no value. -/
def taskValue? (task : Fields) (f : Field) : Option Datum :=
  let found := (Fields.get? task f.taskKey).or (Fields.get? task f.name)
  found.filter fun d => !d.isNull

/-! ## Values in an order -/

/-- How two comparable values stand to each other under the operators other than membership and
likeness. Values without an order, such as what is not a number, are only unequal. -/
def holds (op : Operator) (order : Option Ordering) : Bool :=
  match op with
  | .eq => order == some .eq
  | .ne => order != some .eq
  | .gt => order == some .gt
  | .ge => order == some .gt || order == some .eq
  | .lt => order == some .lt
  | .le => order == some .lt || order == some .eq
  | _ => false

/-- Compares a coerced task value with filter values under one coercion. A list has no coercion of
its own: only membership looks at its items. -/
def compareScalar {α : Type} (order : α → α → Option Ordering)
    (coerce : Scalar → Except Fault (Option α)) (op : Operator) (actual : Option α)
    (expected : Literal) : Except Fault Bool :=
  match actual with
  | none => .ok false
  | some a =>
    if op.isMembership then do
      let candidates ← expected.values.mapM coerce
      let contained := candidates.any fun c => c.any fun t => order a t == some .eq
      .ok (if op = .isIn then contained else !contained)
    else match expected with
      | .many _ => .ok false
      | .one v => do
        match ← coerce v with
        | none => .ok false
        | some t => .ok (holds op (order a t))

/-- The order of truth values. -/
def truthOrder (a b : Bool) : Option Ordering := some (compare a.toNat b.toNat)

/-- Compares truth values. -/
def compareBoolean (op : Operator) (actual : Datum) (expected : Literal) : Except Fault Bool :=
  compareScalar truthOrder (fun v => .ok (Coercion.boolean v.toDatum)) op
    (Coercion.boolean actual) expected

/-- Compares numbers. -/
def compareNumber (op : Operator) (actual : Datum) (expected : Literal) : Except Fault Bool := do
  let a ← Coercion.number actual
  compareScalar Binary64.compare? (fun v => Coercion.number v.toDatum) op a expected

/-- Compares percentages. -/
def comparePercent (isFraction : Bool) (op : Operator) (actual : Datum) (expected : Literal) :
    Except Fault Bool := do
  let a ← Coercion.taskPercent isFraction actual
  compareScalar Binary64.compare? (fun v => Coercion.percent v.toDatum) op a expected

/-! ## Dates -/

/-- Whether a filter value asks for whole days: it, or one of its items, is a date without a
time. -/
def asksDays (expected : Literal) : Bool :=
  expected.values.any fun v => Coercion.isDateOnly v.toDatum

/-- The place of a moment in time: its instant, or its day if whole days are asked for. -/
def place (days : Bool) (s : Stamp) : Int :=
  if days then s.dayNumber else s.instant

/-- The place in time of a value. -/
def placeOf (now : Stamp) (days : Bool) (d : Datum) : Except Fault (Option Int) := do
  let m ← Coercion.moment now d
  .ok (m.map (place days))

/-- Compares dates. -/
def compareDate (now : Stamp) (op : Operator) (actual : Datum) (expected : Literal) :
    Except Fault Bool := do
  let days := asksDays expected
  let a ← placeOf now days actual
  compareScalar (fun x y => some (compare x y)) (fun v => placeOf now days v.toDatum) op a expected

/-! ## Texts and ids -/

/-- The text that a literal is compared as. -/
def literalText : Literal → Except Fault String
  | .one v => Coercion.text v
  | .many vs => Coercion.listText vs

/-- Whether a text occurs in another. -/
def occursIn (part : List Char) : List Char → Bool
  | [] => part.isEmpty
  | c :: cs => part.isPrefixOf (c :: cs) || occursIn part cs

theorem occursIn_iff {part cs : List Char} : occursIn part cs = true ↔ part <:+: cs := by
  induction cs with
  | nil => simp [occursIn]
  | cons c cs ih => simp [occursIn, ih, List.infix_cons_iff]

/-- Compares texts. A list is like nothing. -/
def compareText (op : Operator) (actual : Datum) (expected : Literal) : Except Fault Bool := do
  let a ← Coercion.taskText actual
  match op with
  | .like =>
    match expected with
    | .one v => do
      let t ← Coercion.text v
      .ok (occursIn (Text.lower t.toList) (Text.lower a.toList))
    | .many _ => .ok false
  | .isIn => do
    let ts ← expected.values.mapM Coercion.text
    .ok (ts.contains a)
  | .notIn => do
    let ts ← expected.values.mapM Coercion.text
    .ok (!ts.contains a)
  | .eq => do
    let t ← literalText expected
    .ok (a == t)
  | .ne => do
    let t ← literalText expected
    .ok (a != t)
  | _ => .ok false

/-- Whether two sets of ids have an element in common. -/
def meet (a b : List Coercion.Id) : Bool := a.any b.contains

/-- Whether two sets of ids are equal. -/
def sameIds (a b : List Coercion.Id) : Bool := a.all b.contains && b.all a.contains

/-- Compares sets of ids. Equality with a list asks for the same set, with a single id for
membership. -/
def compareIds (op : Operator) (actual : Datum) (expected : Literal) : Except Fault Bool := do
  let a ← Coercion.ids (Coercion.items actual)
  let wanted ← Coercion.ids (expected.values.map Scalar.toDatum)
  let equal := match expected with
    | .many _ => sameIds a wanted
    | .one _ => meet a wanted
  .ok <| match op with
    | .isIn => meet a wanted
    | .notIn => !meet a wanted
    | .eq => equal
    | .ne => !equal
    | _ => false

/-! ## Conditions -/

/-- Compares a value of a task with the value of a condition. -/
def compareValue (now : Stamp) (task : Fields) (c : Condition) (actual : Datum) :
    Except Fault Bool :=
  match c.field.kind with
  | .array => compareIds c.operator actual c.value
  | .boolean => compareBoolean c.operator actual c.value
  | .number =>
    if c.field = .percentDone then
      comparePercent (Fields.has task c.field.taskKey) c.operator actual c.value
    else compareNumber c.operator actual c.value
  | .date => compareDate now c.operator actual c.value
  | .string => compareText c.operator actual c.value

/-- Whether a task satisfies a condition. -/
def satisfies (now : Stamp) (task : Fields) (c : Condition) : Bool :=
  match taskValue? task c.field with
  | none => false
  | some actual =>
    match compareValue now task c actual with
    | .ok b => b
    | .error _ => false

end Evaluation

/-- Whether a task matches an expression at the time `now`. -/
def Expr.matches (now : Stamp) (task : Fields) : Expr → Bool
  | .leaf c => Evaluation.satisfies now task c
  | .node .and l r => l.matches now task && r.matches now task
  | .node .or l r => l.matches now task || r.matches now task

end TaskSieve.Filter
