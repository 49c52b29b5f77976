import TaskSieve.Filter.Coercion

set_option autoImplicit false

/-! # Checking filter expressions

A check compares every condition with its field: whether the operator suits the kind of the field,
whether a list is given where one is wanted, and whether each value has the right form. Errors
forbid the use of an expression; warnings do not. A value that is shown in a report has to be one
that can be written. -/

namespace TaskSieve.Filter

/-- What a check found, in the order of the conditions. -/
structure Report where
  errors : List String := []
  warnings : List String := []
deriving DecidableEq, Repr

namespace Report

/-- Whether the expression may be used. -/
def valid (r : Report) : Bool := r.errors.isEmpty

/-- A report of one error. -/
def error (text : String) : Report := ⟨[text], []⟩

/-- A report of one warning. -/
def warning (text : String) : Report := ⟨[], [text]⟩

/-- One report after another. -/
def append (a b : Report) : Report := ⟨a.errors ++ b.errors, a.warnings ++ b.warnings⟩

instance : Append Report := ⟨append⟩

/-- The reports of a list one after another. -/
def concat (rs : List Report) : Report := rs.foldr append {}

end Report

namespace Check

open TaskSieve.Calendar

/-- The least and the greatest value that a number field takes. -/
def bounds? : Field → Option (Nat × Nat)
  | .priority => some (0, 5)
  | .percentDone => some (0, 100)
  | _ => none

/-- The text of a value in a message. -/
def shown (v : Scalar) : Except Fault String := v.toDatum.toText.mapError .overlong

/-- The report that a value has not the form of its field. -/
def unexpected (f : Field) (v : Scalar) (form : String) : Except Fault Report := do
  let text ← shown v
  .ok (.error ("Field '" ++ f.name ++ "' expects " ++ form ++ ", got '" ++ text ++ "'"))

/-- Checks a value, which has the number `x`, against the bounds of its field. -/
def checkBounds (f : Field) (v : Scalar) (x : Binary64) : Except Fault Report :=
  match bounds? f with
  | none => .ok {}
  | some (low, high) =>
    if (low : Binary64) ≤ x ∧ x ≤ (high : Binary64) then .ok {}
    else do
      let text ← shown v
      .ok (.warning ("Value " ++ text ++ " for field '" ++ f.name ++ "' is outside the range " ++
        naturalText low ++ "-" ++ naturalText high))

/-- Whether a value can be an id: an integer or a text that is not empty. -/
def isIdLike : Scalar → Bool
  | .int _ => true
  | .text s => s != ""
  | _ => false

/-- Checks one value of a condition on a field. -/
def checkValue (now : Stamp) (f : Field) (v : Scalar) : Except Fault Report :=
  match f.kind with
  | .boolean =>
    if (Coercion.boolean v.toDatum).isSome then .ok {}
    else unexpected f v "a boolean value (true/false)"
  | .number => do
    match ← Coercion.number v.toDatum with
    | none => unexpected f v "a numeric value"
    | some x => checkBounds f v x
  | .date => do
    match ← Coercion.moment now v.toDatum with
    | none => unexpected f v "a date (YYYY-MM-DD, ISO 8601 or now[+-]N[smhdw])"
    | some _ => .ok {}
  | .string =>
    .ok (match v with
      | .bool b => .warning ("Boolean value '" ++ (if b then "true" else "false") ++
          "' for text field '" ++ f.name ++ "' is compared as text")
      | _ => {})
  | .array => if isIdLike v then .ok {} else unexpected f v "numeric or string ids"

/-- The operator that compares with a single value instead of a list. -/
def single : Operator → Operator
  | .isIn => .eq
  | _ => .ne

/-- Checks the form of the value of a condition, and the value or values. -/
def checkLiteral (now : Stamp) (c : Condition) : Except Fault Report :=
  match c.value with
  | .many vs =>
    if c.operator.isMembership then do
      let rs ← vs.mapM (checkValue now c.field)
      .ok (.concat rs)
    else
      .ok (.error ("Field '" ++ c.field.name ++ "' with operator '" ++ c.operator.text ++
        "' does not accept a list value; lists are only valid with 'in' and 'not in'"))
  | .one v => do
    let r ← checkValue now c.field v
    if c.operator.isMembership then
      .ok (.warning ("Operator '" ++ c.operator.text ++ "' on field '" ++ c.field.name ++
        "' expects a list; the single value is treated as a one-element list") ++ r)
    else .ok r

/-- Checks a condition. An operator that does not suit the field is an error, except that
membership is only advised against. -/
def checkCondition (now : Stamp) (c : Condition) : Except Fault Report :=
  if c.operator.suits c.field.kind then checkLiteral now c
  else if c.operator.isMembership then do
    let r ← checkLiteral now c
    .ok (.warning ("Operator '" ++ c.operator.text ++ "' is meant for array fields; field '" ++
      c.field.name ++ "' is " ++ c.field.kind.name ++ ", consider '" ++ (single c.operator).text ++
      "' instead") ++ r)
  else
    .ok (.error ("Operator '" ++ c.operator.text ++ "' is not valid for field '" ++ c.field.name ++
      "' (" ++ c.field.kind.name ++ ")"))

/-- What is said of an expression that joins conditions by both combinators. -/
def mixedWarning : String :=
  "Expression mixes '&&' and '||' without grouping; conditions are combined strictly left to right"

end Check

/-- Checks an expression at the time `now`. -/
def Expr.check (now : Calendar.Stamp) (e : Expr) : Except Fault Report := do
  let rs ← e.conditions.mapM (Check.checkCondition now)
  let r := Report.concat rs
  .ok (if e.isMixed then r ++ .warning Check.mixedWarning else r)

end TaskSieve.Filter
