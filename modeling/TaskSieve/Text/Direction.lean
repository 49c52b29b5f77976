import TaskSieve.Text.DirectionTable
import TaskSieve.Text.Rows

set_option autoImplicit false

/-! # Direction of writing

Some scripts are written from right to left, their numbers from left to right. A text that mixes
directions may be shown in more than one order. A label of a name is unambiguous if its characters
have the direction of the first one, or none of their own. -/

namespace TaskSieve.Text

/-- How a character takes part in the direction of a text. -/
inductive Direction where
  | left
  | right
  /-- A letter written from right to left whose neighbouring numbers are read as Arabic ones. -/
  | arabic
  | europeanNumber
  | arabicNumber
  | numberSign
  | numberEnd
  | numberGap
  | mark
  | invisible
  | neutral
  /-- What parts texts, such as a blank. -/
  | separator
deriving DecidableEq, Repr

namespace Direction

/-- The direction that a table names. -/
def ofNote (note : List Char) : Direction :=
  match String.ofList note with
  | "R" => right
  | "AL" => arabic
  | "EN" => europeanNumber
  | "AN" => arabicNumber
  | "ES" => numberSign
  | "ET" => numberEnd
  | "CS" => numberGap
  | "NSM" => mark
  | "BN" => invisible
  | "ON" => neutral
  | _ => separator

/-- The characters that are not written from left to right. -/
def entries : List (Entry × Direction) :=
  (Entry.ofRows directionRows).map fun e => (e, ofNote e.note)

/-- The direction of a character. -/
def ofChar (c : Char) : Direction :=
  ((entries.find? (·.1.covers c.toNat)).map (·.2)).getD left

/-- What belongs to the writing from right to left. -/
def isFromRight : Direction → Bool
  | right | arabic | arabicNumber => true
  | _ => false

/-- What may stand in a label of either direction. -/
def isShared : Direction → Bool
  | europeanNumber | numberSign | numberEnd | numberGap | mark | invisible | neutral => true
  | _ => false

end Direction

/-- Whether a text has characters that belong to the writing from right to left. -/
def hasFromRight (cs : List Char) : Bool := cs.any fun c => (Direction.ofChar c).isFromRight

/-- Whether a label is unambiguous among labels that are written from right to left. One that starts
from the left ends in a letter or a number and has nothing that goes to the left; one that starts
from the right has nothing that goes to the right but numbers, and numbers of one kind only. Marks
at the end do not count. -/
def isOneWay (label : List Char) : Bool :=
  let ds := label.map Direction.ofChar
  let last := ds.reverse.find? (· != .mark)
  match ds.head? with
  | none => true
  | some .left =>
    ds.all (fun d => d == .left || d.isShared) &&
      last.any (fun d => d == .left || d == .europeanNumber)
  | some .right | some .arabic =>
    ds.all (fun d => d.isFromRight || d.isShared) &&
      last.any (fun d => d.isFromRight || d == .europeanNumber) &&
      !(ds.contains .europeanNumber && ds.contains .arabicNumber)
  | some _ => false

end TaskSieve.Text
