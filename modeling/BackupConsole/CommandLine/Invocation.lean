import BackupConsole.CommandLine.Scan
import BackupConsole.Settings.Resolve

set_option autoImplicit false

namespace BackupConsole.CommandLine

inductive Stop
  | help
  | mistake (e : UsageError)
  deriving DecidableEq

structure Globals where
  configFile : Option String := none
  flags : Flags := []

structure Invocation where
  globals : Globals
  command : Command
  flags : Flags := []

def flagOf : Slot × Given → Option (String × Given)
  | (.setting k, v) => some (k.name, v)
  | (.debug, _) => some (Setting.logLevel.name, .text "DEBUG")
  | (.help, _) => none
  | (.configFile, _) => none

def flagsOf (values : List (Slot × Given)) : Flags := values.filterMap flagOf

def Globals.ofValues (values : List (Slot × Given)) : Globals :=
  { configFile := match values.lookup .configFile with
      | some (.text name) => some name
      | _ => none
    flags := flagsOf values }

def Globals.settings (world : World) (globals : Globals) (flags : Flags) :
    Except Failure Settings :=
  resolve world globals.configFile (globals.flags ++ flags)

def Invocation.settings (world : World) (i : Invocation) : Except Failure Settings :=
  i.globals.settings world i.flags

/-- Values of the switches, and the words. Mistakes in switches come before help, help before
values that cannot be read. -/
def read (switches : List Switch) (mixed : Bool) (args : List String) :
    Except Stop (List (Slot × Given) × List String) :=
  let s := scan switches mixed args
  match s.problem with
  | some e => .error (.mistake e)
  | none =>
    if s.typed.any fun t => t.switch.slot == .help then .error .help
    else match s.values with
      | .error e => .error (.mistake e)
      | .ok values => .ok (values, s.words)

-- The options of an unfinished command line, as far as they can be read.
def Globals.ofUnfinished (args : List String) : Globals :=
  .ofValues (scan globalSwitches false args).readableValues

inductive Entry
  | command (c : Command)
  | group (members : List (String × Command))

def entries : List (String × Entry) := [
  ("list", .group [
    ("nodes", .listNodes), ("backups", .listBackups), ("storage", .listStorage)]),
  ("run", .group [("backup", .runBackup), ("restore", .runRestore)]),
  ("version", .command .showVersion)]

/-- Reads switches and goes on to the entry that the first word names. A word that names none may
still be a switch with a mistake of its own. -/
def choose {α : Type} (switches : List Switch) (table : List (String × α)) (args : List String) :
    Except Stop (List (Slot × Given) × α × List String) := do
  if args.isEmpty then .error (.mistake .nothingTyped)
  let (values, words) ← read switches false args
  match words with
  | [] => .error (.mistake .missingCommand)
  | word :: rest =>
    match table.lookup word with
    | some entry => return (values, entry, rest)
    | none => do
      -- A word that looks like a switch tells its own mistake.
      let _ ← read switches false words
      .error (.mistake (.noSuchCommand word))

def readWords (command : Command) (words : List String) : Except Stop Flags :=
  let nothingMore (flags : Flags) : List String → Except Stop Flags
    | [] => .ok flags
    | extra => .error (.mistake (.extraArguments extra))
  match command, words with
  | .runRestore, [] => .error (.mistake (.missingArgument "metadata_file"))
  | .runRestore, file :: extra =>
    nothingMore [(Setting.restoreMetadataFile.name, .text file)] extra
  | _, words => nothingMore [] words

def readCommand (globals : Globals) (command : Command) (args : List String) :
    Except Stop Invocation := do
  let (values, words) ← read (switchesOf command) true args
  return { globals, command, flags := flagsOf values ++ (← readWords command words) }

def parse (args : List String) : Except Stop Invocation := do
  let (values, entry, rest) ← choose globalSwitches entries args
  let globals := Globals.ofValues values
  match entry with
  | .command c => readCommand globals c rest
  | .group members => do
    let (_, c, rest) ← choose [.help] members rest
    readCommand globals c rest

def missing? (s : Settings) (command : Command) : Option UsageError :=
  (requiredOf command).findSome? fun (k, name) =>
    if s.given k == .text "" then some (.valueRequired name) else none

end BackupConsole.CommandLine
