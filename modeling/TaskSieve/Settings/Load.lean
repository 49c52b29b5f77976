import TaskSieve.Settings.Arguments
import TaskSieve.Settings.Folder
import TaskSieve.Toml.Document

set_option autoImplicit false

/-! # Loading settings

Settings come from a file, and arguments win over it. The file that arguments name has to be there;
the usual one need not be. -/

namespace TaskSieve

/-- Why there are no settings. -/
inductive LoadStop where
  | arguments (stop : ArgumentStop)
  /-- The settings file cannot be used, or the settings are not valid. -/
  | settings
deriving DecidableEq, Repr

namespace Settings

/-- The usual settings file. -/
def usualFile : String := "./config.toml"

/-- The settings in a file: every key has to be that of a setting. -/
def fileFields (text : String) : Option Fields :=
  (Toml.Document.read? text).filter fun fs => (Schema.extras keys fs).isEmpty

/-- Settings from arguments and the file that they name. -/
def ofArguments (a : Arguments) (folder : Folder) : Except LoadStop Settings := do
  let named := a.file.filter (· != "")
  let path := named.getD usualFile
  let fields ← match folder.at? path with
    | .nothing => if named.isSome then .error .settings else .ok []
    | .folder => .error .settings
    | .file text =>
      match fileFields text with
      | some fields => .ok fields
      | none => .error .settings
  let fields := a.overrides.foldl (fun fs f => Fields.put fs f.1 f.2) fields
  match ofFields (Fields.put fields configFileKey (.text path)) with
  | .valid s => .ok s
  | .invalid _ => .error .settings

/-- Loads settings. -/
def load (arguments : List String) (folder : Folder) : Except LoadStop Settings :=
  match Arguments.ofList arguments with
  | .ok a => ofArguments a folder
  | .error stop => .error (.arguments stop)

end Settings

end TaskSieve
