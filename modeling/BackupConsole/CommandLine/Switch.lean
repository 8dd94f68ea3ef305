import BackupConsole.Command
import BackupConsole.CommandLine.Usage

set_option autoImplicit false

namespace BackupConsole.CommandLine

inductive Slot
  | help
  | configFile
  | debug
  | setting (k : Setting)
  deriving DecidableEq, Repr

inductive Intake
  | text
  | real
  | oneOf (values : List String)
  | fixed (b : Bool)
  deriving DecidableEq, Repr

def Intake.takesValue : Intake → Bool
  | fixed _ => false
  | _ => true

structure Switch where
  name : String
  slot : Slot
  intake : Intake
  deriving DecidableEq, Repr

namespace Switch

def isLong (s : Switch) : Bool := ['-', '-'].isPrefixOf s.name.toList

def help : Switch := ⟨"--help", .help, .fixed true⟩

def text (name : String) (k : Setting) : Switch := ⟨name, .setting k, .text⟩

def flag (name : String) (k : Setting) (b : Bool) : Switch := ⟨name, .setting k, .fixed b⟩

end Switch

def globalSwitches : List Switch := [
  ⟨"--config-file", .configFile, .text⟩, ⟨"-c", .configFile, .text⟩,
  .text "--api-token" .apiToken,
  .text "--server-address" .serverAddress, .text "-s" .serverAddress,
  ⟨"--server-compressor", .setting .serverCompressor, .oneOf ["gzip", "deflate", "none"]⟩,
  .flag "--tls" .tls true, .flag "--no-tls" .tls false,
  .text "--tls-ca-file" .tlsCaFile,
  ⟨"--connect-timeout", .setting .connectTimeout, .real⟩,
  ⟨"--debug", .debug, .fixed true⟩, ⟨"-d", .debug, .fixed true⟩,
  .help]

def switchesOf : Command → List Switch
  | .listNodes => [.flag "--verbose" .verbose true, .help]
  | .listBackups => [.help]
  | .listStorage => [.help]
  | .runBackup => [
    .text "--backup-type" .backupType,
    .text "--compression-algorithm" .compressionAlgorithm,
    .text "--encryption-algorithm" .encryptionAlgorithm,
    .text "--description" .description, .text "--storage" .storageName, .help]
  | .runRestore => [
    .flag "--skip-users-and-roles" .skipUsersAndRoles true, .text "--storage" .storageName, .help]
  | .showVersion => [.help]

def requiredOf : Command → List (Setting × String)
  | .runBackup => [(.description, "--description"), (.storageName, "--storage")]
  | .runRestore => [(.storageName, "--storage")]
  | _ => []

structure Typed where
  switch : Switch
  text : String := ""
  deriving DecidableEq, Repr

namespace Typed

def value (t : Typed) : Except UsageError Given :=
  match t.switch.intake with
  | .text => .ok (.text t.text)
  | .fixed b => .ok (.bool b)
  | .real => match (Given.text t.text).toReal with
    | .ok x => .ok (.real x)
    | .error flaw => .error (.badReal t.switch.name flaw)
  | .oneOf values =>
    if values.contains t.text then .ok (.text t.text)
    else .error (.notOneOf t.switch.name t.text values)

end Typed

end BackupConsole.CommandLine
