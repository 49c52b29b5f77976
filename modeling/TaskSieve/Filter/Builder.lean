import TaskSieve.Filter.Printer
import TaskSieve.Text.Quoted

set_option autoImplicit false

/-! # Building filter expressions

A builder collects conditions into a chain. Each condition is joined by the combinator that was
asked for last since the condition before it, and by `and` if none was. -/

namespace TaskSieve.Filter

/-- Why a condition or a chain cannot be built. -/
inductive BuildError where
  | unknownField (name : String)
  | unknownOperator (text : String)
  | emptyList (field : Field)
  | unknownCombinator (text : String)
  | unprintable (error : PrintError)
deriving DecidableEq, Repr

/-- The error in words. -/
def BuildError.message : BuildError → String
  | unknownField name => "Unknown filter field: " ++ name
  | unknownOperator text => "Unknown filter operator: " ++ text
  | emptyList field => "Empty value list for filter field: " ++ field.name
  | unknownCombinator text => Text.quoted text ++ " is not a valid Combinator"
  | unprintable e => e.message

/-- A condition that may be part of a chain: its value is not the empty list. -/
def Condition.checked (c : Condition) : Except BuildError Condition :=
  if c.value = .many [] then .error (.emptyList c.field) else .ok c

/-- A condition from the names of its field and operator. -/
def Condition.make (field operator : String) (value : Literal) : Except BuildError Condition :=
  match Field.resolve? field.toList with
  | none => .error (.unknownField field)
  | some f =>
    match Operator.ofText? operator with
    | none => .error (.unknownOperator operator)
    | some op => Condition.checked ⟨f, op, value⟩

/-- The expression built so far, and the combinator asked for since its last condition. -/
structure Builder where
  expr : Option Expr := none
  pending : Option Combinator := none
deriving DecidableEq, Repr

namespace Builder

/-- Asks for the combinator before the next condition. -/
def joinBy (b : Builder) (c : Combinator) : Builder :=
  { b with pending := some c }

/-- Adds a condition. -/
def add (b : Builder) (condition : Condition) : Builder :=
  match b.expr with
  | none => ⟨some (.leaf condition), none⟩
  | some e => ⟨some (.node (b.pending.getD .and) e (.leaf condition)), none⟩

/-- Adds a condition given by names. -/
def where_ (b : Builder) (field operator : String) (value : Literal) : Except BuildError Builder :=
  (Condition.make field operator value).map b.add

/-- The text of what is built so far; nothing built is the empty text. -/
def print (b : Builder) : Except PrintError String :=
  match b.expr with
  | none => .ok ""
  | some e => e.print

/-- The chain of conditions joined by one combinator. -/
def chain (c : Combinator) (conditions : List Condition) : Except BuildError Builder :=
  conditions.foldlM (fun b condition => condition.checked.map (b.joinBy c).add) {}

/-- The text of conditions joined by one combinator. -/
def joinAll (c : Combinator) (conditions : List Condition) : Except BuildError String := do
  let b ← chain c conditions
  b.print.mapError .unprintable

/-- The text of conditions joined by the combinator with a spelling. -/
def joinAllBy (combinator : String) (conditions : List Condition) : Except BuildError String :=
  match Combinator.ofText? combinator with
  | none => .error (.unknownCombinator combinator)
  | some c => joinAll c conditions

end Builder

end TaskSieve.Filter
