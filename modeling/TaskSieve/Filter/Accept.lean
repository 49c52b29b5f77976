import TaskSieve.Filter.Check
import TaskSieve.Filter.Reader

set_option autoImplicit false

/-! # Filters that may be used

A filter text is saved, and tasks are listed by it, only if it can be read and its check finds no
errors. -/

namespace TaskSieve.Filter

/-- Why a filter text may not be used. -/
inductive Refusal where
  | unreadable (error : ParseError)
  | rejected (report : Report)
  /-- It cannot be read or checked, because an integer has too many digits. -/
  | overlong (found : Overlong)
  | fault (fault : Fault)
deriving DecidableEq, Repr

/-- Why a text that is read with this error may not be used. -/
def ReadError.toRefusal : ReadError → Refusal
  | .malformed e => .unreadable e
  | .overlong o => .overlong o

/-- Why a text whose check fails may not be used. -/
def Fault.toRefusal : Fault → Refusal
  | .overlong o => .overlong o
  | f => .fault f

/-- Reads and checks a filter text: its expression and its report, if it has no errors. -/
def accept (now : Calendar.Stamp) (source : String) : Except Refusal (Expr × Report) :=
  match Expr.read source with
  | .error e => .error e.toRefusal
  | .ok e =>
    match e.check now with
    | .error f => .error f.toRefusal
    | .ok r => if r.valid then .ok (e, r) else .error (.rejected r)

end TaskSieve.Filter
