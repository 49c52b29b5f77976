import TaskSieve.Text.Split

set_option autoImplicit false

/-! # Files by path

The files that the program can see. A path leads to a file from the folder that the program runs in
or, if it starts with a slash, from the topmost folder; the same file may be named by several
paths. -/

namespace TaskSieve

/-- Files: paths and texts. -/
abbrev Folder := List (String × String)

namespace Folder

/-- What stands at a path. -/
inductive Place where
  | nothing
  | folder
  | file (text : String)
deriving DecidableEq, Repr

/-- The steps of a path, without those that lead nowhere. -/
def steps (path : String) : List (List Char) :=
  (Text.splitAtAll (· == '/') path.toList).filter fun s => !s.isEmpty && s != ['.']

/-- Resolves the steps that lead back; `kept` holds the steps before, last first. None if the path
leads above its start. -/
def resolve (kept : List (List Char)) : List (List Char) → Option (List (List Char))
  | [] => some kept.reverse
  | ['.', '.'] :: rest =>
    match kept with
    | _ :: kept => resolve kept rest
    | [] => none
  | step :: rest => resolve (step :: kept) rest

/-- Where a path leads: whether it starts at the top, and its resolved steps. -/
def target? (path : String) : Option (Bool × List (List Char)) :=
  (resolve [] (steps path)).map fun steps => (path.startsWith "/", steps)

/-- What stands at a path. Above the folder that the program runs in there are only folders. -/
def at? (folder : Folder) (path : String) : Place :=
  match target? path with
  | none => if (steps path).all (· == ['.', '.']) then .folder else .nothing
  | some (top, wanted) =>
    match folder.find? fun f => target? f.1 == some (top, wanted) with
    | some f => .file f.2
    | none =>
      let holds (f : String × String) : Bool :=
        (target? f.1).any fun (t, steps) => t == top && wanted.isPrefixOf steps
      if wanted.isEmpty || folder.any holds then .folder else .nothing

end Folder

end TaskSieve
