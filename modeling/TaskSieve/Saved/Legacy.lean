import TaskSieve.Filter.Builder
import TaskSieve.Schema.Parameter

set_option autoImplicit false

/-! # Conditions in columns

An older form of a filter gives its conditions as three columns: fields, values and comparators.
The columns count as far as the shortest one, and rows with an empty value do not count. -/

namespace TaskSieve

open Schema TaskSieve.Filter

/-- A filter in columns. -/
structure Columns where
  fields : List String
  values : List String
  comparators : List String
  combinator : Option String
deriving DecidableEq, Repr

namespace Columns

/-- The keys of a filter in columns. -/
def keys : List String := ["filter_by", "filter_value", "filter_comparator", "filter_concat"]

/-- Reads a filter in columns. -/
def ofFields (fs : Fields) : Checked Columns :=
  (fun columns _ => columns) <$>
    (Columns.mk <$> optional fs "filter_by" [] (list text) <*>
      optional fs "filter_value" [] (list text) <*>
      optional fs "filter_comparator" [] (list text) <*>
      optional fs "filter_concat" none (nullable text)) <*>
    onlyKeys keys fs

/-- Reads a filter in columns from a value. -/
def ofDatum : Datum → Checked Columns := record ofFields

/-- The value of a row. In the columns of a number field a number is a number, and an integer if it
is one; a truth field holds only for `true`; all else is text. -/
def valueOf (field value : String) : Scalar :=
  if field = "priority" ∨ field = "percentDone" then
    match Decimal.numberOf? value.toList with
    | none => .text value
    | some x =>
      match x.toInt? with
      | some n => .int n
      | none => .num x
  else if field = "done" then .bool (value == "true")
  else .text value

/-- The rows with a value. -/
def rows (c : Columns) : List (String × String × String) :=
  (c.fields.zip (c.values.zip c.comparators)).filter fun row => row.2.1 != ""

/-- The combinator between the conditions. -/
def joint (c : Columns) : Combinator :=
  if c.combinator = some "||" then .or else .and

/-- The conditions of the rows. -/
def conditions (c : Columns) : Except BuildError (List Condition) :=
  c.rows.mapM fun (field, value, comparator) =>
    Condition.make field comparator (.one (valueOf field value))

/-- The filter text of the columns. -/
def print (c : Columns) : Except BuildError String := do
  let conditions ← c.conditions
  Builder.joinAll c.joint conditions

end Columns

end TaskSieve
