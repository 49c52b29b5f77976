import TaskSieve.Service.Basic
import TaskSieve.Settings.Load

set_option autoImplicit false

/-! # Launching the service

From arguments and files to a running service, or to the exit code that says why there is none.
Whether the task server can be reached is tried first if the settings ask for it, but the service
starts in any case. -/

namespace TaskSieve

open Remote

/-- Why the service does not run. -/
inductive LaunchStop where
  | load (stop : LoadStop)
  /-- Saved filters cannot be loaded. -/
  | filters
deriving DecidableEq, Repr

/-- How a service that has run ended. -/
inductive Ending where
  | finished
  | interrupted
  | failed
deriving DecidableEq, Repr

/-- The exit code for settings that cannot be loaded. -/
def LoadStop.exitCode : LoadStop → Nat
  | arguments .help => 0
  | arguments .usage => 2
  | settings => 1

/-- The exit code for a service that does not run. -/
def LaunchStop.exitCode : LaunchStop → Nat
  | load stop => stop.exitCode
  | filters => 1

/-- The exit code for a service that has run. -/
def Ending.exitCode : Ending → Nat
  | finished => 0
  | interrupted => 0
  | failed => 1

namespace Service

/-- The name under which the service is known to those who call it. -/
def publicName : String := "vikunja-mcp"

/-- How calls reach the service: by its standard input and output. -/
def transport : String := "stdio"

/-- Where saved filters are kept, if what stands at the path can be a file. -/
def shelf? (settings : Settings) (folder : Folder) : Option Shelf :=
  match settings.savedFiltersPath with
  | none => some .memory
  | some path =>
    match folder.at? path with
    | .nothing => some (.file none)
    | .file text => some (.file (some text))
    | .folder => none

/-- Tries whether the task server can be reached, if the settings ask for it. -/
def greet (settings : Settings) (s : Service) : Service :=
  if settings.testsConnectivity then
    { s with connection := (s.client.testConnectivity s.connection).2 }
  else s

/-- Launches a service with these settings. -/
def ofSettings (settings : Settings) (folder : Folder) (network : Network) (ticket : Ticket) :
    Except LaunchStop Service :=
  match shelf? settings folder with
  | none => .error .filters
  | some shelf =>
    match start settings shelf network ticket with
    | .ok s => .ok (s.greet settings)
    | .error _ => .error .filters

/-- Launches the service. -/
def launch (arguments : List String) (folder : Folder) (network : Network) (ticket : Ticket) :
    Except LaunchStop Service := do
  let settings ← (Settings.load arguments folder).mapError .load
  ofSettings settings folder network ticket

end Service

end TaskSieve
