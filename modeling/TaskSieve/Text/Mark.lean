import TaskSieve.Text.MarkTable
import TaskSieve.Text.Rows

set_option autoImplicit false

/-! # Marks

A mark is written onto, around or beside the character before it. -/

namespace TaskSieve.Text

/-- The marks. -/
def markEntries : List Entry := Entry.ofRows markRows

/-- Whether a character is a mark. -/
def isMark (c : Char) : Bool := Entry.mention markEntries c

end TaskSieve.Text
