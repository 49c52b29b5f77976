import Std.Time.DateTime.Timestamp
import TaskSieve.Datum.Reader
import TaskSieve.Datum.Writer
import TaskSieve.Service.Launch

set_option autoImplicit false

/-! # Command line

Launches the service from its arguments and answers calls: each line of the standard input is a
JSON object with a `tool` and its `arguments`, and each is answered with one line of JSON. No
transport to a task server is part of this program, so the server counts as unreachable; everything
that concerns saved filters works without it. -/

namespace TaskSieve.Main

/-- The texts of those files that can be read. -/
def readFiles (paths : List String) : IO Folder :=
  paths.filterMapM fun (path : String) => do
    try
      let text ← IO.FS.readFile path
      return some (path, text)
    catch _ => return none

/-- The file that the arguments make the settings file. -/
def settingsPath (arguments : List String) : String :=
  match Arguments.ofList arguments with
  | .ok a => (a.file.filter (· != "")).getD Settings.usualFile
  | .error _ => Settings.usualFile

/-- Two hexadecimal digits for each byte. -/
def hexText (bytes : List UInt8) : List Char :=
  bytes.flatMap fun b => Text.hex 2 b.toNat

/-- An id made of sixteen bytes, in groups. -/
def idText (bytes : List UInt8) : String :=
  let groups := [(0, 4), (4, 2), (6, 2), (8, 2), (10, 6)]
  String.ofList (['-'].intercalate (groups.map fun (start, length) =>
    hexText ((bytes.drop start).take length)))

/-- The stamp of a number of seconds since the start of 1970. -/
def stampOfSeconds (seconds : Int) : Calendar.Stamp :=
  (Calendar.Stamp.ofDay (Calendar.CivilDate.dayNumber ⟨1970, 1, 1⟩) (some 0)).plusSeconds seconds

/-- A fresh id and the current time. -/
def newTicket : IO Ticket := do
  let now ← Std.Time.Timestamp.now
  let bytes ← IO.getRandomBytes 16
  return ⟨idText bytes.toList, stampOfSeconds now.toSecondsSinceUnixEpoch.val⟩

/-- The answer to a line of input, and the service after it. -/
def answerLine (s : Service) (ticket : Ticket) (line : String) : Datum × Service :=
  let rejection : Datum := .record [("error", .text "ToolError")]
  match Datum.read line with
  | .ok (.record fields) =>
    let tool := ((Fields.get? fields "tool").bind Datum.text?).getD ""
    let arguments := ((Fields.get? fields "arguments").bind Datum.fields?).getD []
    let (answer, s) := s.call ticket tool arguments
    (answer.toDatum?.getD rejection, s)
  | _ => (rejection, s)

/-- Writes the saved filters if they have changed. -/
def keep (path : Option String) (before after : Service) : IO Unit :=
  match path, after.sessions.shelf with
  | some path, .file (some text) =>
    if before.sessions.shelf = after.sessions.shelf then pure () else IO.FS.writeFile path text
  | _, _ => pure ()

/-- Answers lines of input until it ends. -/
def serve (path : Option String) (start : Service) : IO Unit := do
  let input ← IO.getStdin
  let output ← IO.getStdout
  let mut s := start
  repeat
    let line ← input.getLine
    if line.isEmpty then break
    let (answer, next) := answerLine s (← newTicket) line
    keep path s next
    output.putStrLn answer.writeLine
    output.flush
    s := next

/-- Loads settings, launches the service and serves; answers the exit code. -/
def run (arguments : List String) : IO Nat := do
  let folder ← readFiles [settingsPath arguments]
  match Settings.load arguments folder with
  | .error stop => return stop.exitCode
  | .ok settings =>
    let kept ← readFiles settings.savedFiltersPath.toList
    match Service.ofSettings settings kept {} (← newTicket) with
    | .error stop => return stop.exitCode
    | .ok s =>
      try
        serve settings.savedFiltersPath s
        return Ending.finished.exitCode
      catch _ => return Ending.failed.exitCode

end TaskSieve.Main

/-- The program. -/
def main (arguments : List String) : IO UInt32 := do
  return (← TaskSieve.Main.run arguments).toUInt32
