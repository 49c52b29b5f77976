import TaskSieve.Saved.Legacy
import TaskSieve.Schema.Parameter

set_option autoImplicit false

/-! # Parameters of the actions on saved filters

Each action takes its parameters as a record. Names of several words may be spelled with
underscores or with inner capitals, and unknown names are refused. -/

namespace TaskSieve

open Schema TaskSieve.Filter
open Checked (complain)

/-- Reads a choice by its name. -/
def choice {α : Type} (ofText? : String → Option α) : Datum → Checked α
  | .text s =>
    match ofText? s with
    | some a => .valid a
    | none => complain .notChoice
  | _ => complain .notChoice

/-! ## Looking -/

/-- Parameters of a list: a project, or whether only global filters are wanted. -/
structure ListParameters where
  projectId : Option Int
  globalOnly : Option Bool
deriving DecidableEq, Repr

/-- The spellings of a project. -/
def projectSpellings : List String := ["projectId", "project_id"]

/-- The spellings of whether a filter is global. -/
def globalSpellings : List String := ["isGlobal", "is_global"]

/-- The spellings of whether only global filters are wanted. -/
def globalOnlySpellings : List String := ["global_only", "globalOnly", "global"]

/-- The spellings of whether a filter is a favourite. -/
def favouriteSpellings : List String := ["is_favorite", "isFavorite"]

/-- Reads a value together with the refusal of unknown parameters. -/
def closed {α : Type} (parameters : List (List String)) (read : Fields → Checked α) (fs : Fields) :
    Checked α :=
  (fun a _ => a) <$> read fs <*> onlyParameters parameters fs

/-- Reads the parameters of a list. -/
def ListParameters.ofFields : Fields → Checked ListParameters :=
  closed [projectSpellings, globalOnlySpellings] fun fs =>
    ListParameters.mk <$> optionalParameter fs projectSpellings none (nullable integer) <*>
      optionalParameter fs globalOnlySpellings none (nullable truth)

/-- Reads the id of one filter. -/
def idParameter : Fields → Checked String :=
  closed [["id"]] fun fs => requiredParameter fs ["id"] filledText

/-! ## Writing -/

/-- Parameters of a new filter. Its text may be given in columns. -/
structure CreateParameters where
  name : Option String
  title : Option String
  description : Option String
  filter : Option String
  columns : Option Columns
  projectId : Option Int
  isGlobal : Bool
  isFavourite : Option Bool
deriving DecidableEq, Repr

/-- A text that is given and not empty. -/
def filled (s : Option String) : Option String := s.filter (· != "")

namespace CreateParameters

/-- The name of the new filter. -/
def chosenName (p : CreateParameters) : Option String := (filled p.name).or p.title

/-- Asks for a name and for a filter. -/
def complete (p : CreateParameters) : Checked CreateParameters :=
  if (filled p.name).isNone && (filled p.title).isNone then
    complain (.stated "Either name or title must be provided")
  else if (filled p.filter).isNone && p.columns.isNone then
    complain (.stated "Either filter or filters must be provided")
  else .valid p

/-- Reads the parameters of a new filter. -/
def ofFields (fs : Fields) : Checked CreateParameters :=
  (closed [["name"], ["title"], ["description"], ["filter"], ["filters"], projectSpellings,
      globalSpellings, favouriteSpellings] (fun fs =>
    CreateParameters.mk <$> optional fs "name" none (nullable text) <*>
      optional fs "title" none (nullable text) <*>
      optional fs "description" none (nullable text) <*>
      optional fs "filter" none (nullable text) <*>
      optional fs "filters" none (nullable Columns.ofDatum) <*>
      optionalParameter fs projectSpellings none (nullable integer) <*>
      optionalParameter fs globalSpellings false truth <*>
      optionalParameter fs favouriteSpellings none (nullable truth)) fs).andThen complete

end CreateParameters

/-- Parameters of a change: the id of the filter and the fields to change. -/
structure UpdateParameters where
  id : String
  name : Option String
  description : Option String
  filter : Option String
  projectId : Option Int
  isGlobal : Option Bool
deriving DecidableEq, Repr

namespace UpdateParameters

/-- Reads the parameters of a change. -/
def ofFields : Fields → Checked UpdateParameters :=
  let spellings :=
    [["id"], ["name"], ["description"], ["filter"], projectSpellings, globalSpellings]
  closed spellings fun fs =>
    UpdateParameters.mk <$> requiredParameter fs ["id"] filledText <*>
      optional fs "name" none (nullable filledText) <*>
      optional fs "description" none (nullable text) <*>
      optional fs "filter" none (nullable text) <*>
      optionalParameter fs projectSpellings none (nullable integer) <*>
      optionalParameter fs globalSpellings none (nullable truth)

/-- The fields to change, those that are given. -/
def changes (p : UpdateParameters) : Fields :=
  let given (key : String) (d : Option Datum) : Fields := d.toList.map fun d => (key, d)
  given "name" (p.name.map .text) ++ given "description" (p.description.map .text) ++
    given "filter" (p.filter.map .text) ++ given "project_id" (p.projectId.map .int) ++
    given "is_global" (p.isGlobal.map .bool)

end UpdateParameters

/-! ## Building and validating -/

/-- Reads an item of a list value: a text or an integer. -/
def listItem : Datum → Checked Scalar
  | .text s => .valid (.text s)
  | d => (integer d).map .int

/-- Reads the value of a condition. -/
def conditionValue : Datum → Checked Literal
  | .bool b => .valid (.one (.bool b))
  | .int n => .valid (.one (.int n))
  | .num x => .valid (.one (.num x))
  | .text s => .valid (.one (.text s))
  | .list items =>
    match Checked.each listItem items with
    | .valid vs => .valid (.many vs)
    | .invalid _ => complain .noAlternative
  | _ => complain .noAlternative

/-- The field with a name, spelled as in filters. -/
def fieldNamed? (name : String) : Option Field := Field.all.find? (·.name == name)

/-- Reads a condition. -/
def conditionParameters : Datum → Checked Condition :=
  record <| closed [["field"], ["operator"], ["value"]] fun fs =>
    Condition.mk <$> requiredParameter fs ["field"] (choice fieldNamed?) <*>
      requiredParameter fs ["operator"] (choice Operator.ofText?) <*>
      requiredParameter fs ["value"] conditionValue

/-- Parameters of a filter to build. -/
structure BuildParameters where
  conditions : List Condition
  combinator : Combinator
deriving DecidableEq, Repr

/-- The spellings of the combinator. -/
def groupSpellings : List String := ["groupOperator", "group_operator"]

/-- Reads the parameters of a filter to build. -/
def BuildParameters.ofFields : Fields → Checked BuildParameters :=
  closed [["conditions"], groupSpellings] fun fs =>
    BuildParameters.mk <$> requiredParameter fs ["conditions"] (list conditionParameters) <*>
      optionalParameter fs groupSpellings .and (choice Combinator.ofText?)

/-- Reads the text of a filter to validate. -/
def textParameter : Fields → Checked String :=
  closed [["filter"]] fun fs => requiredParameter fs ["filter"] text

end TaskSieve
