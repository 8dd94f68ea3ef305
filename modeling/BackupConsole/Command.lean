import BackupConsole.Client
import BackupConsole.Layout.Template
import BackupConsole.Request

set_option autoImplicit false

namespace BackupConsole

inductive Command
  | listNodes
  | listBackups
  | listStorage
  | runBackup
  | runRestore
  | showVersion
  deriving DecidableEq, Repr

namespace Command

def all : List Command :=
  [listNodes, listBackups, listStorage, runBackup, runRestore, showVersion]

def name : Command → String
  | listNodes => "list nodes"
  | listBackups => "list backups"
  | listStorage => "list storage"
  | runBackup => "run backup"
  | runRestore => "run restore"
  | showVersion => "version"

def ofName? (s : String) : Option Command := all.find? fun c => c.name == s

end Command

/-- Registering a second handler for a command is an error; other names may have one. The answer
lists the commands that are handled, in order of their names. -/
def register (name : String) : Except Failure (List String) :=
  if (Command.ofName? name).isSome then
    .error (.badValue (some ("Command " ++ Text.quote name ++ " already has a handler")))
  else .ok ((Command.all.map Command.name).mergeSort fun a b => !decide (b < a))

structure BuildInfo where
  version : String := "0.1.0"
  commit : String := "none"
  build : String := "date"
  branch : String := "master"
  runtime : String := "3.11.2"

def BuildInfo.toDatum (b : BuildInfo) : Datum := .dict [
  ("version", .text b.version), ("commit", .text b.commit), ("build", .text b.build),
  ("branch", .text b.branch), ("python_version", .text b.runtime)]

inductive Output
  | line (message : String)
  | layout (t : Layout.Template) (data : Layout.Data)

def Output.write : Output → Run Unit
  | line message => .emit (.wrote (message ++ "\n"))
  | layout t data => do
    let text ← Run.ofExcept (Layout.render t data)
    Run.emit (.wrote text)
    Run.log .debug "backupctl.cli.render" "Rendered output"
      [("template", .text t.fileName), ("size", .int text.length)]

namespace Command

def logger : String := "backupctl.cli.router"

def isListingFailure (c : Cause) : Bool :=
  c.category == .stream || c.category == .remoteCall

def listed {α : Type} (complaint : String) (r : Run α) : Run (Option α) :=
  (some <$> r).recover fun
    | .refused c =>
      if isListingFailure c then
        some (do
          Run.log .error logger complaint [("error", .text c.message), ("code", .text c.code)]
          return none)
      else none
    | _ => none

def perform (files : Files) (s : Settings) (c : Coordinator) : Command → Run Unit
  | listNodes => do
    let agents ← Channel.withOpen files s c.readiness fun interceptors =>
      listed "Cannot get the list of connected agents" (Client.connectedAgents interceptors c)
    match agents with
    | none => return ()
    | some agents =>
      let t : Layout.Template := if s.verbose then .connectedNodesVerbose else .connectedNodes
      (Output.layout t (.agents agents)).write
  | listBackups => do
    let backups ← Channel.withOpen files s c.readiness fun interceptors =>
      listed "Cannot get the list of available backups" (Client.availableBackups interceptors c)
    match backups with
    | none => return ()
    -- An empty listing of backups is a line, not a heading without rows.
    | some [] => (Output.line "No backups found").write
    | some backups => (Output.layout .availableBackups (.backups backups)).write
  | listStorage => do
    let storages ← Channel.withOpen files s c.readiness fun interceptors =>
      listed "Cannot get the storage list" (Client.storages interceptors c)
    match storages with
    | none => return ()
    | some storages => (Output.layout .availableStorages (.storages storages)).write
  | runBackup => do
    let request ← Run.ofCause (BackupRequest.ofSettings s)
    Channel.withOpen files s c.readiness fun interceptors =>
      Client.runBackup interceptors c request.toMessage
    (Output.line "Backup completed").write
  | runRestore => do
    let request := RestoreRequest.ofSettings s
    Channel.withOpen files s c.readiness fun interceptors =>
      Client.runRestore interceptors c request.toMessage
    (Output.line "Restore completed").write
  | showVersion => (Output.layout .version (.raw (BuildInfo.toDatum {}))).write

def tagged (command : Command) : Event → Event
  | .log record => .log { record with fields := record.fields ++ [("command", .text command.name)] }
  | e => e

def exitOk : Nat := 0

def exitFailure : Nat := 1

/-- Runs a command to an exit code. Errors that the program reports are logged and fail the
command; any other error goes on. -/
def dispatch (files : Files) (s : Settings) (c : Coordinator) (command : Command) : Run Nat :=
  let judged : Run Nat := ((fun _ => exitOk) <$> command.perform files s c).recover fun
    | .refused cause => some (do
        Run.log .error logger cause.message [("code", .text cause.code)]
        return exitFailure)
    | _ => none
  judged.mapEvents command.tagged

end Command

end BackupConsole
