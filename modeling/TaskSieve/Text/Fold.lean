import TaskSieve.Text.FoldTable
import TaskSieve.Text.Rows

set_option autoImplicit false

/-! # Folding

Names are compared without regard to letter case and to variants of a character: each character is
folded into the ones that it stands for. Some stand for nothing, and some have no place in a
name. -/

namespace TaskSieve.Text

/-- The characters that stand for themselves. -/
def plainEntries : List Entry := Entry.ofRows plainRows

/-- The characters that stand for nothing. -/
def silentEntries : List Entry := Entry.ofRows silentRows

/-- What other characters stand for: the code points of a whole entry, of which the first one moves
on with the character. -/
def foldedEntries : List (Entry × List Nat) := (Entry.ofRows foldedRows).map fun e => (e, e.listed)

/-- Whether a character stands for itself. -/
def isPlain (c : Char) : Bool := Entry.mention plainEntries c

/-- The characters that a character stands for, if it has a place in a name. -/
def fold? (c : Char) : Option (List Char) :=
  if isPlain c then some [c]
  else if Entry.mention silentEntries c then some []
  else (foldedEntries.find? (·.1.covers c.toNat)).map fun (e, ns) =>
    match ns with
    | [] => []
    | n :: rest => Char.ofNat (n + (c.toNat - e.first)) :: rest.map Char.ofNat

/-- The folded form of a text, if every character has a place in a name. -/
def foldText? (cs : List Char) : Option (List Char) := (cs.mapM fold?).map List.flatten

end TaskSieve.Text
