import TaskSieve.Schema.Value

set_option autoImplicit false

/-! # Parameters

A parameter may have several spellings. The first spelling that is given counts; any other key is
unknown, even another spelling of the same parameter. Issues name a parameter as it was spelled,
and a missing one by its first spelling. -/

namespace TaskSieve.Schema

variable {α : Type}

/-- The first of the spellings that is given, with its value. -/
def spelled? (fields : Fields) (spellings : List String) : Option (String × Datum) :=
  spellings.findSome? fun key => (fields.get? key).map fun d => (key, d)

/-- Reads a parameter that has to be given. -/
def requiredParameter (fields : Fields) (spellings : List String) (item : Datum → Checked α) :
    Checked α :=
  match spelled? fields spellings with
  | some (key, d) => (item d).inside key
  | none => .invalid [⟨spellings.take 1, .missing⟩]

/-- Reads a parameter that has a default. -/
def optionalParameter (fields : Fields) (spellings : List String) (default : α)
    (item : Datum → Checked α) : Checked α :=
  match spelled? fields spellings with
  | some (key, d) => (item d).inside key
  | none => .valid default

/-- Refuses every key that does not give one of the parameters. -/
def onlyParameters (parameters : List (List String)) (fields : Fields) : Checked Unit :=
  onlyKeys (parameters.filterMap fun p => (spelled? fields p).map (·.1)) fields

end TaskSieve.Schema
