import TaskSieve.Text.Composition
import TaskSieve.Text.JoiningTable

set_option autoImplicit false

/-! # Joining

In some scripts letters take the form that joins their neighbours. Two invisible characters join or
part letters by hand; they have a place only where that shows. -/

namespace TaskSieve.Text

/-- The sides on which a letter joins its neighbours. -/
inductive Joining where
  | left
  | right
  | both
  /-- A mark, which lets its neighbours join each other. -/
  | through
deriving DecidableEq, Repr

namespace Joining

/-- The sides that a table names. -/
def ofNote? (note : List Char) : Option Joining :=
  match note with
  | ['L'] => some left
  | ['R'] => some right
  | ['D'] => some both
  | ['T'] => some through
  | _ => none

/-- The letters that join. -/
def entries : List (Entry × Joining) :=
  (Entry.ofRows joiningRows).filterMap fun e => (ofNote? e.note).map (e, ·)

/-- The sides on which a character joins, if it does. -/
def ofChar? (c : Char) : Option Joining :=
  (entries.find? (·.1.covers c.toNat)).map (·.2)

/-- What the nearest letter joins, marks skipped. -/
def nearest? (cs : List Char) : Option Joining :=
  (cs.dropWhile fun c => ofChar? c == some through).head?.bind ofChar?

end Joining

/-- The sign that parts two letters. -/
def nonJoiner : Char := Char.ofNat 0x200C

/-- The sign that joins two letters. -/
def joiner : Char := Char.ofNat 0x200D

/-- The class of the marks that leave a consonant without its vowel. -/
def vowelKiller : Nat := 9

/-- Whether a sign that joins or parts has a place after `before`, which comes nearest first, and
before `after`. Both have one behind a consonant without vowel; the one that parts also has one
between letters that would join. -/
def isJoinedAt (c : Char) (before after : List Char) : Bool :=
  before.head?.any (fun d => combiningClass d == vowelKiller) ||
    c == nonJoiner &&
      (Joining.nearest? before == some .left || Joining.nearest? before == some .both) &&
      (Joining.nearest? after == some .right || Joining.nearest? after == some .both)

/-- Whether every sign that joins or parts has its place in what follows `before`, which comes
nearest first. -/
def joinsRight (before : List Char) : List Char → Bool
  | [] => true
  | c :: rest =>
    ((c != nonJoiner && c != joiner) || isJoinedAt c before rest) && joinsRight (c :: before) rest

end TaskSieve.Text
