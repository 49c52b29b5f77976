import TaskSieve.Number.Layout

set_option autoImplicit false

/-! # Issues

A payload, a set of parameters or a settings file is checked as a whole: every part that has the
wrong form gives an issue, which says where it is and what is wrong. `Checked` is a value or the
issues that prevent it, and combining two checked values keeps the issues of both. -/

namespace TaskSieve.Schema

/-- What is wrong with a value. -/
inductive Complaint where
  | missing
  | unknownKey
  | notText
  | textTooShort
  | notInteger
  | integerForm
  | integerSize
  | fractional
  | notNumber
  | numberForm
  | notFinite
  | notTruth
  | truthForm
  | notList
  | notRecord
  | notChoice
  | notLiteral
  | tooSmall
  | tooLarge
  | notUrl
  | urlForm
  | urlScheme
  | urlTooLong
  | notTimestamp
  | timestampForm
  | noAlternative
  | stated (text : String)
deriving DecidableEq, Repr

/-- The short name of a complaint in reports. -/
def Complaint.code : Complaint → String
  | missing => "missing"
  | unknownKey => "extra_forbidden"
  | notText => "string_type"
  | textTooShort => "string_too_short"
  | notInteger => "int_type"
  | integerForm => "int_parsing"
  | integerSize => "int_parsing_size"
  | fractional => "int_from_float"
  | notNumber => "float_type"
  | numberForm => "float_parsing"
  | notFinite => "finite_number"
  | notTruth => "bool_type"
  | truthForm => "bool_parsing"
  | notList => "list_type"
  | notRecord => "model_type"
  | notChoice => "enum"
  | notLiteral => "literal_error"
  | tooSmall => "greater_than_equal"
  | tooLarge => "less_than_equal"
  | notUrl => "url_type"
  | urlForm => "url_parsing"
  | urlScheme => "url_scheme"
  | urlTooLong => "url_too_long"
  | notTimestamp => "datetime_type"
  | timestampForm => "datetime_parsing"
  | noAlternative => "no_union_member"
  | stated _ => "value_error"

/-- The text that a complaint adds, if it adds one. -/
def Complaint.text? : Complaint → Option String
  | stated text => some ("Value error, " ++ text)
  | _ => none

/-- A complaint and the path to the value it is about, outermost part first. -/
structure Issue where
  path : List String
  complaint : Complaint
deriving DecidableEq, Repr

/-- The path as one text. -/
def Issue.place (i : Issue) : String := ".".intercalate i.path

/-- A value, or the issues that prevent it. -/
inductive Checked (α : Type) where
  | valid (value : α)
  | invalid (issues : List Issue)
deriving Repr

namespace Checked

variable {α β : Type}

/-- Applies a function to a checked value. -/
def map (f : α → β) : Checked α → Checked β
  | .valid a => .valid (f a)
  | .invalid is => .invalid is

/-- Applies a checked function to a checked value, keeping the issues of both. -/
def seq (f : Checked (α → β)) (a : Checked α) : Checked β :=
  match f, a with
  | .valid f, .valid a => .valid (f a)
  | .valid _, .invalid is => .invalid is
  | .invalid is, .valid _ => .invalid is
  | .invalid is, .invalid js => .invalid (is ++ js)

instance : Applicative Checked where
  pure := .valid
  map := map
  seq f a := seq f (a ())

/-- Goes on with a value only if it is valid. -/
def andThen (a : Checked α) (f : α → Checked β) : Checked β :=
  match a with
  | .valid a => f a
  | .invalid is => .invalid is

/-- A single issue about the value itself. -/
def complain (c : Complaint) : Checked α := .invalid [⟨[], c⟩]

/-- The issues of a part, placed inside the whole. -/
def inside (part : String) : Checked α → Checked α
  | .valid a => .valid a
  | .invalid is => .invalid (is.map fun i => { i with path := part :: i.path })

/-- Whether a value is valid. -/
def isValid : Checked α → Bool
  | .valid _ => true
  | .invalid _ => false

/-- The issues, if there are any. -/
def issues : Checked α → List Issue
  | .valid _ => []
  | .invalid is => is

/-- The value, if it is valid. -/
def value? : Checked α → Option α
  | .valid a => some a
  | .invalid _ => none

/-- The value or the issues. -/
def toExcept : Checked α → Except (List Issue) α
  | .valid a => .ok a
  | .invalid is => .error is

/-- All values of a list, keeping the issues of all; the values are numbered from `index`. -/
def eachFrom (f : α → Checked β) (index : Nat) : List α → Checked (List β)
  | [] => .valid []
  | a :: rest => (List.cons <$> (f a).inside (naturalText index)) <*> eachFrom f (index + 1) rest

/-- All values of a list, keeping the issues of all. -/
def each (f : α → Checked β) (xs : List α) : Checked (List β) := eachFrom f 0 xs

end Checked

end TaskSieve.Schema
