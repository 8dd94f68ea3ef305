import BackupConsole.Layout.Timestamp
import BackupConsole.Session
import Std.Time.DateTime.Timestamp

set_option autoImplicit false

namespace BackupConsole.Terminal

def farAway : Coordinator := { readiness := { ending := .blocked } }

def helpText : String :=
  "Usage: backupctl [OPTIONS] COMMAND\n\nCommands:\n" ++
    String.join (Command.all.map fun c => "  " ++ c.name ++ "\n")

def notice : Exit → String × String
  | .stopped .help => (helpText, "")
  | .stopped (.mistake .nothingTyped) => (helpText, "")
  | .stopped (.mistake e) => ("", "Error: " ++ e.message ++ "\n")
  | .unusable cause =>
    ("", "Error: " ++ cause.message ++ "\n" ++ String.join (cause.faults.map fun fault =>
      fault.place ++ "\n  " ++ fault.flaw.message ++ "\n"))
  | .finished _ => ("", "")

def placeOf (f : Files) (p : Path) : List String :=
  (f.start p ++ p.parts).foldl
    (fun place part => if part = ".." then place.dropLast else place ++ [part]) []

def pathOf (place : List String) : String := "/" ++ "/".intercalate place

def contentOf (place : List String) : IO (Option Content) := do
  try
    return some (.file (← IO.FS.readBinFile (pathOf place)).toList)
  catch
    | .inappropriateType .. => return some .folder
    | .permissionDenied .. => return some (.file [] { reading := some .denied })
    | _ => return none

def load (f : Files) (names : List String) : IO Files :=
  names.foldlM (fun f name => do
    match ConfigFile.expand f name with
    | .error _ => return f
    | .ok path =>
      let place := placeOf f path
      match ← contentOf place with
      | some c => return f.put place c
      | none => return f) f

def variableNames : List String :=
  (Environment.settings.map Environment.suffix ++ ["config_file", "debug"]).map fun name =>
    Environment.lead ++ name.toUpper

def readEnvironment : IO Environment.Variables :=
  variableNames.filterMapM fun name => do
    return (← IO.getEnv name).map fun value => (name, value)

def homesIn (table : String) : List (String × String) :=
  (Text.splitAt '\n' table).filterMap fun line => match Text.splitAt ':' line with
    | name :: _ :: _ :: _ :: _ :: home :: _ => some (name, home)
    | _ => none

def emptyFiles : IO Files := do
  let home := (← IO.getEnv "HOME").getD "/"
  let others ← try pure (homesIn (← IO.FS.readFile "/etc/passwd")) catch _ => pure []
  let work := (Path.ofText (← IO.currentDir).toString).parts
  return {
    homes := fun name => if name = "" then some home else others.lookup name
    work
    entries := [((Path.ofText home).parts, .folder), (work, .folder)] }

def configNames (vars : Environment.Variables) (i : CommandLine.Invocation) : List String :=
  (i.globals.configFile.toList ++ (Environment.value? vars "config_file").toList).filter (· != "")
    ++ [ConfigFile.defaultPath]

def fileNames (s : Settings) : List String :=
  [if s.tlsCaFile = "" then defaultCertificatePath else s.tlsCaFile] ++
    (if s.logFile = "" then [] else [s.logFile])

def gather (args : List String) : IO World := do
  let environment ← readEnvironment
  let files ← emptyFiles
  match CommandLine.parse args with
  | .error _ => return { files, environment }
  | .ok i =>
    let files ← load files (configNames environment i)
    match i.settings { files, environment } with
    | .error _ => return { files, environment }
    | .ok s => return { files := ← load files (fileNames s), environment }

def saveLog (s : Session Exit) : IO Unit := do
  let files := s.run.logs.foldl (fun files r => s.journal.write files r) s.files
  match s.journal.file with
  | none => return
  | some place =>
    match files.contentAt place with
    | some (.file bytes) =>
      IO.FS.createDirAll (pathOf place.dropLast)
      IO.FS.writeBinFile (pathOf place) ⟨bytes.toArray⟩
    | _ => return

def stamp : IO String := do
  let now ← Std.Time.Timestamp.now
  match Layout.secondsText now.toSecondsSinceUnixEpoch.val with
  | .ok text => return text
  | .error _ => return "-"

end BackupConsole.Terminal

open BackupConsole in
def main (args : List String) : IO UInt32 := do
  let session := Session.start (← Terminal.gather args) Terminal.farAway args
  let stamp ← Terminal.stamp
  IO.print session.run.output
  for line in session.lines stamp do
    IO.eprintln line.toText
  Terminal.saveLog session
  match session.run.outcome with
  | .error _ =>
    IO.eprintln "Error: the command could not be completed"
    return 1
  | .ok exit =>
    let (shown, complaint) := Terminal.notice exit
    IO.print shown
    IO.eprint complaint
    return exit.code.toUInt32
