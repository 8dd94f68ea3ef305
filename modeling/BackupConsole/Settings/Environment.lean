import BackupConsole.Settings.Basic
import BackupConsole.Text.Lowercase

set_option autoImplicit false

namespace BackupConsole.Environment

abbrev Variables := List (String × String)

def settings : List Setting := [
  .apiToken, .serverAddress, .serverCompressor, .tls, .tlsCaFile, .connectTimeout, .logLevel,
  .logFormat, .logFile, .backupType, .compressionAlgorithm, .encryptionAlgorithm, .description,
  .storageName, .skipUsersAndRoles, .verbose]

def lead : String := "BACKUPCTL_"

def suffix : Setting → String
  | .storageName => "storage"
  | k => k.name

def value? (vars : Variables) (suffix : String) : Option String :=
  let name := Text.lower lead ++ suffix
  ((vars.reverse.find? fun (other, _) => Text.lower other == name)).map (·.2)

structure Overrides where
  layer : Layer
  configFile : Option String
  debug : Option Bool

def readSetting (vars : Variables) (k : Setting) : Except Fault (Option (Setting × Given)) :=
  match value? vars (suffix k) with
  | none => .ok none
  | some text =>
    match k.shape.coerce (.text text) with
    | .ok v => .ok (some (k, k.shape.give v))
    | .error flaw => .error ⟨k.name, flaw⟩

def readDebug (vars : Variables) : Except Fault (Option Bool) :=
  match value? vars "debug" with
  | none => .ok none
  | some text =>
    match Given.boolOfWord text with
    | .ok b => .ok (some b)
    | .error flaw => .error ⟨"debug", flaw⟩

def load (vars : Variables) : Except (List Fault) Overrides :=
  let read := settings.map (readSetting vars)
  let faults := read.filterMap fun
    | .error fault => some fault
    | .ok _ => none
  match readDebug vars with
  | .error fault => .error (faults ++ [fault])
  | .ok debug =>
    if faults.isEmpty then
      .ok {
        layer := read.filterMap fun
          | .ok entry => entry
          | .error _ => none
        configFile := value? vars "config_file"
        debug := debug }
    else .error faults

end BackupConsole.Environment
