import BackupConsole.CommandLine.Invocation
import BackupConsole.Completion
import BackupConsole.Interrupt
import BackupConsole.Journal.Basic

/-!
A run of the program: arguments become settings, settings a journal and a command. Nothing runs
before its settings hold and its required values are there. Completion takes the same way with what
was typed so far, and offers nothing where a command would fail.
-/

set_option autoImplicit false

namespace BackupConsole

structure Session (α : Type) where
  files : Files
  journal : Journal
  run : Run α

def Session.lines {α : Type} (s : Session α) (stamp : String) : List Line :=
  s.run.logs.flatMap (s.journal.lines stamp)

/-- How the program ends: with help or a mistake in the command line, with a configuration that
cannot be used, or with the exit code of its command. -/
inductive Exit
  | stopped (reason : CommandLine.Stop)
  | unusable (cause : Cause)
  | finished (code : Nat)
  deriving DecidableEq

namespace Exit

def usageCode : Nat := 2

def code : Exit → Nat
  | stopped .help => Command.exitOk
  | stopped (.mistake _) => usageCode
  | unusable _ => Command.exitFailure
  | finished code => code

end Exit

namespace Session

def runCommand (files : Files) (s : Settings) (c : Coordinator) (command : Command) : Run Exit :=
  (Exit.finished <$> Interrupt.guard (command.dispatch files s c)).recover fun
    | .interrupted => some (do
        Run.log .warning "backupctl.cli.invocation" "Interrupted"
          [("command", .text command.name)]
        return .finished Interrupt.exitCode)
    | _ => none

def execute (world : World) (c : Coordinator) (i : CommandLine.Invocation) : Session Exit :=
  match i.settings world with
  | .error (.refused cause) => ⟨world.files, {}, pure (.unusable cause)⟩
  | .error e => ⟨world.files, {}, .fail e⟩
  | .ok s =>
    match Journal.setUp world.files {} (.ofSettings s) with
    | (files, journal, .error e) => ⟨files, journal, .fail e⟩
    | (files, journal, .ok ()) =>
      -- Required values are judged after all layers, so that any layer may give them.
      match CommandLine.missing? s i.command with
      | some e => ⟨files, journal, pure (.stopped (.mistake e))⟩
      | none => ⟨files, journal, runCommand files s c i.command⟩

def start (world : World) (c : Coordinator) (args : List String) : Session Exit :=
  match CommandLine.parse args with
  | .error reason => ⟨world.files, {}, pure (.stopped reason)⟩
  | .ok i => execute world c i

/-- Failures that leave the shell without suggestions, and what the log tells of them: errors that
the program reports, and errors of the system. -/
def complaint? : Failure → Option String
  | .refused c => some c.message
  | .unusableFile problem path => some (problem.message path)
  | .raised .system text => some text
  | .raised .timeout text => some text
  | _ => none

def suggestions (incomplete : String) (names : List (String × String)) : List (String × String) :=
  names.filter fun (name, _) => incomplete.toList.isPrefixOf name.toList

def offered (files : Files) (s : Settings) (c : Coordinator) (incomplete : String) :
    Run (List (String × String)) := do
  return suggestions incomplete (← Completion.fetchNames files s Completion.defaultTimeout c)

def withoutComplaints (r : Run (List (String × String))) : Run (List (String × String)) :=
  r.recover fun e => (complaint? e).map fun text => do
    Run.log .debug "backupctl.cli.completion" "Backup name completion unavailable"
      [("error", .text text)]
    return []

def complete (world : World) (c : Coordinator) (globals : CommandLine.Globals)
    (incomplete : String) : Session (List (String × String)) :=
  let (files, journal, _) := Journal.setUp world.files {} {}
  match globals.settings { world with files } [] with
  | .error e => ⟨files, journal, withoutComplaints (.fail e)⟩
  | .ok s =>
    match Journal.setUp files journal (.ofSettings s) with
    | (files, journal, .error e) => ⟨files, journal, withoutComplaints (.fail e)⟩
    | (files, journal, .ok ()) =>
      ⟨files, journal, withoutComplaints (offered files s c incomplete)⟩

end Session

end BackupConsole
