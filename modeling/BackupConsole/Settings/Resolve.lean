import BackupConsole.Settings.ConfigFile
import BackupConsole.Settings.Environment

set_option autoImplicit false

namespace BackupConsole

/-- Everything that settings are resolved from, the command line apart. -/
structure World where
  files : Files
  environment : Environment.Variables

abbrev Flags := List (String × Given)

namespace Flags

def unknown (flags : Flags) : List String :=
  (flags.map (·.1)).filter fun name => (Setting.ofName? name).isNone

def layer (flags : Flags) : Layer :=
  flags.filterMap fun (name, v) => (Setting.ofName? name).map fun k => (k, v)

end Flags

def environmentLayer (overrides : Environment.Overrides) : Layer :=
  if overrides.debug.getD false then overrides.layer.set .logLevel (.text "DEBUG")
  else overrides.layer

def mergedLayer (file : Layer) (overrides : Environment.Overrides) (flags : Flags) : Layer :=
  ((defaultLayer.update file).update (environmentLayer overrides)).update flags.layer

-- A file named on the command line comes before one named by the environment.
def namedFile (typed : Option String) (overrides : Environment.Overrides) : Option String :=
  match typed with
  | some text => if text != "" then some text else overrides.configFile
  | none => overrides.configFile

def resolve (world : World) (typed : Option String) (flags : Flags)
    (fallback : String := ConfigFile.defaultPath) : Except Failure Settings := do
  let overrides ← match Environment.load world.environment with
    | .ok overrides => pure overrides
    | .error faults => .error (.refused (.invalidEnvironment faults))
  let file ← match ← ConfigFile.find world.files (namedFile typed overrides) fallback with
    | some path => ConfigFile.load world.files path
    | none => pure []
  let unknown := flags.unknown
  if !unknown.isEmpty then
    .error (.refused (.unknownSettings (unknown.mergeSort fun a b => !decide (b < a))))
  else
    match Settings.ofLayer (mergedLayer file overrides flags) with
    | .ok settings => return settings
    | .error faults => .error (.refused (.invalidSettings faults))

end BackupConsole
