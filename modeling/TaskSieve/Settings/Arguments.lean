import TaskSieve.Settings.Basic

set_option autoImplicit false

/-! # Command-line arguments

Options set single settings and win over the settings file. An option may be shortened as long as
it stays unique, and its value follows it or is joined to it by an equals sign. Arguments that are
no options are not expected. -/

namespace TaskSieve

/-- What an option does. -/
inductive OptionKind where
  /-- Shows what options there are. -/
  | help
  /-- Asks for the check at the start. -/
  | check
  /-- Names the settings file. -/
  | file
  /-- Sets a setting to a text. -/
  | text (key : String)
  /-- Sets a setting to an integer. -/
  | integer (key : String)
  /-- Sets the log level. -/
  | level
deriving DecidableEq, Repr

namespace OptionKind

/-- Whether an option has a value. -/
def hasValue : OptionKind → Bool
  | help => false
  | check => false
  | _ => true

end OptionKind

/-- Settings made by arguments. -/
structure Arguments where
  file : Option String := none
  overrides : Fields := []
deriving Repr

/-- Why arguments lead to no settings. -/
inductive ArgumentStop where
  /-- Help was asked for. -/
  | help
  /-- The arguments are wrong. -/
  | usage
deriving DecidableEq, Repr

namespace Arguments

/-- The options and their spellings. -/
def options : List (String × OptionKind) :=
  [("-h", .help), ("--help", .help), ("--config-file", .file), ("--log-level", .level),
    ("--base-url", .text Settings.baseKey), ("--token", .text Settings.tokenKey),
    ("--rate-limit-rpm", .integer Settings.rpmKey),
    ("--rate-limit-burst", .integer Settings.burstKey),
    ("--saved-filters-path", .text Settings.savedFiltersPathKey), ("--test-connectivity", .check)]

/-! ## Recognising options -/

/-- What an argument is. -/
inductive Item where
  /-- An option, and the value joined to it. -/
  | option (kind : OptionKind) (joined : Option String)
  /-- The single-letter option for help, with letters joined to it. -/
  | letters (more : List Char)
  /-- It looks like an option, but there is none of this name. -/
  | unknown
  /-- It is no option. -/
  | plain (text : String)
  /-- No option follows. -/
  | separator
deriving DecidableEq, Repr

/-- Whether a text is written like a negative number. -/
def isNegativeNumber (cs : List Char) : Bool :=
  match cs with
  | '-' :: rest =>
    let whole := rest.takeWhile Text.isDigit
    match rest.dropWhile Text.isDigit with
    | [] => !whole.isEmpty
    | '.' :: fraction => !fraction.isEmpty && fraction.all Text.isDigit
    | _ => false
  | _ => false

/-- The letters that are joined to the single-letter option for help, with or without an equals
sign. -/
def joinedLetters? : List Char → Option (List Char)
  | '-' :: 'h' :: '=' :: more => some more
  | '-' :: 'h' :: more => some more
  | _ => none

/-- What a text is that is the spelling of no option: its letters, the only option whose spelling it
begins, or no option at all; none if it begins the spellings of several options. -/
def classifyOther (argument : String) : Option Item :=
  let (name, joined) := Text.cutAt (· == '=') argument.toList
  let candidates := if argument.startsWith "--" then
      options.filter fun o => (String.ofList name).isPrefixOf o.1
    else []
  match joinedLetters? argument.toList, candidates with
  | some letters, _ => some (.letters letters)
  | none, [o] => some (.option o.2 (joined.map String.ofList))
  | none, _ :: _ :: _ => none
  | none, [] =>
    if isNegativeNumber argument.toList || argument.toList.contains ' ' then some (.plain argument)
    else some .unknown

/-- What an argument is; none if it stands for several options. -/
def classify (argument : String) : Option Item :=
  if !argument.startsWith "-" || argument == "-" then some (.plain argument)
  else match options.lookup argument with
    | some kind => some (.option kind none)
    | none => classifyOther argument

/-- What arguments are, up to and after a separator; none if one of them stands for several
options. -/
def classifyAll : List String → Option (List Item)
  | [] => some []
  | argument :: rest =>
    if argument == "--" then some (.separator :: rest.map .plain)
    else (classify argument).bind fun item => (classifyAll rest).map (item :: ·)

/-! ## Using options -/

/-- Sets a setting. -/
def override (key : String) (value : Datum) (a : Arguments) : Arguments :=
  { a with overrides := a.overrides.put key value }

/-- The setting that an option sets. -/
def settingKey? : OptionKind → Option String
  | .text key => some key
  | .integer key => some key
  | .level => some Settings.logLevelKey
  | _ => none

/-- Uses an option with a value, if the value suits it. -/
def useValue (kind : OptionKind) (value : String) (a : Arguments) : Option Arguments :=
  match kind with
  | .file => some { a with file := some value }
  | .text key => some (a.override key (.text value))
  | .integer key => (Decimal.integerOf? value.toList).map fun n => a.override key (.int n)
  | .level => (LogLevel.ofName? value).map fun l => a.override Settings.logLevelKey (.text l.name)
  | _ => none

/-- Uses an option to which two hyphens are joined as its value. They stand for no value at all: the
settings file is the usual one then, and a setting becomes an empty list, which suits none. -/
def useNothing (kind : OptionKind) (a : Arguments) : Arguments :=
  match settingKey? kind with
  | some key => a.override key (.list [])
  | none => { a with file := none }

/-- Uses an option with the value that is joined to it. -/
def useJoined (kind : OptionKind) (value : String) (a : Arguments) : Option Arguments :=
  if value = "--" then some (a.useNothing kind) else a.useValue kind value

/-- What letters that are joined to the option for help lead to: each has to be that option
again. -/
def stopAtLetters (letters : List Char) : ArgumentStop :=
  if !letters.isEmpty && letters.all (· == 'h') then .help else .usage

/-- Uses arguments from left to right; `extra` says whether one was met that is not expected. -/
def use (a : Arguments) (extra : Bool) : List Item → Except ArgumentStop Arguments
  | [] => if extra then .error .usage else .ok a
  | .unknown :: rest => use a true rest
  | .plain _ :: rest => use a true rest
  | .separator :: rest => use a true rest
  | .letters letters :: _ => .error (stopAtLetters letters)
  | .option kind joined :: rest =>
    match kind.hasValue, joined, rest with
    | true, some value, rest =>
      match a.useJoined kind value with
      | some a => use a extra rest
      | none => .error .usage
    | true, none, .plain value :: rest =>
      match a.useValue kind value with
      | some a => use a extra rest
      | none => .error .usage
    | true, none, _ => .error .usage
    | false, some _, _ => .error .usage
    | false, none, rest =>
      if kind = .help then .error .help
      else use (a.override Settings.testsConnectivityKey (.bool true)) extra rest

/-- Reads arguments. -/
def ofList (arguments : List String) : Except ArgumentStop Arguments :=
  match classifyAll arguments with
  | some items => use {} false items
  | none => .error .usage

end Arguments

end TaskSieve
