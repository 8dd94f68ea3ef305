import BackupConsole.Cause
import BackupConsole.Settings.Basic
import BackupConsole.Yaml.Document

set_option autoImplicit false

namespace BackupConsole.ConfigFile

def defaultPath : String := "~/.backupctl.yaml"

def settings : List Setting := [
  .apiToken, .serverAddress, .serverCompressor, .tls, .tlsCaFile, .connectTimeout, .logLevel,
  .logFormat, .logFile]

def spellings : Setting → List String
  | .serverAddress => ["server_address", "server_addr"]
  | k => [k.name]

def valueOf? (entries : List (Given × Given)) (key : String) : Option Given :=
  (entries.find? fun (k, _) => k == .text key).map (·.2)

def spelling? (entries : List (Given × Given)) (k : Setting) : Option String :=
  (spellings k).find? fun name => (valueOf? entries name).isSome

def readSetting (entries : List (Given × Given)) (k : Setting) :
    Except Fault (Option (Setting × Given)) :=
  match spelling? entries k with
  | none => .ok none
  | some name =>
    match valueOf? entries name with
    | none => .ok none
    | some .null => .ok none
    | some g =>
      match k.shape.coerce g with
      | .ok v => .ok (some (k, k.shape.give v))
      | .error flaw => .error ⟨name, flaw⟩

def strayFault (used : List String) (key : Given) : Option Fault :=
  match key with
  | .text name => if used.contains name then none else some ⟨name, .notAllowed⟩
  | _ => some ⟨key.keyText, .badKey⟩

def layerOf (entries : List (Given × Given)) : Except (List Fault) Layer :=
  let read := settings.map (readSetting entries)
  let used := settings.filterMap (spelling? entries)
  let faults := (read.filterMap fun
      | .error fault => some fault
      | .ok _ => none) ++
    entries.filterMap fun (key, _) => strayFault used key
  if faults.isEmpty then
    .ok (read.filterMap fun
      | .ok entry => entry
      | .error _ => none)
  else .error faults

def failureOf (path : String) : Yaml.Defect → Failure
  | .malformed => .refused (.malformedConfig path)
  | .unreadable => .badValue none
  | .overflow => .overflow
  | .unknownWord => .missingKey
  | .emptyNumber => .missingPosition
  | .notATime => .missingAttribute
  | .wrongType => .wrongType
  | .tooDeep => .tooDeep

def documentIn (reader : Yaml.Reader) (name : String) (bytes : List UInt8) :
    Except Failure Yaml.Document :=
  match Given.utf8? bytes with
  | none => .error (((reader.early bytes).map (failureOf name)).getD .unreadableText)
  | some text =>
    (Yaml.documentOf reader (Text.unifyLineEnds text.toList)).mapError (failureOf name)

def load (files : Files) (path : Path) : Except Failure Layer :=
  let name := path.toText
  match files.read path with
  | .error .badName => .error (.badValue none)
  | .error problem => .error (.refused (.unreadableConfig name problem))
  | .ok bytes =>
    match documentIn files.reader name bytes with
    | .error e => .error e
    | .ok .empty => .ok []
    | .ok (.other v) => .error (.refused (.configNotMapping name v.typeName))
    | .ok (.mapping entries) =>
      match layerOf entries with
      | .ok layer => .ok layer
      | .error faults => .error (.refused (.invalidConfig name faults))

def homeless (path : Path) : Failure :=
  if path.user?.any Path.holdsNul then .badValue none
  else .raised .other "Could not determine home directory."

def expand (files : Files) (text : String) : Except Failure Path :=
  let path := Path.ofText text
  match path.expandHome files.homes with
  | some path => .ok path
  | none => .error (homeless path)

def present (files : Files) (path : Path) : Except Failure Bool :=
  (files.isFile path).mapError fun problem => .unusableFile problem path.toText

def find (files : Files) (named : Option String) (fallback : String) :
    Except Failure (Option Path) :=
  match named.filter (· != "") with
  | some text => do
    let path ← expand files text
    if ← present files path then return some path
    else .error (.refused (.noConfigFile path.toText))
  | none => do
    let path ← expand files fallback
    return if ← present files path then some path else none

end BackupConsole.ConfigFile
