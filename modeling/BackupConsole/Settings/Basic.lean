import BackupConsole.Settings.Setting

set_option autoImplicit false

namespace BackupConsole

structure Settings where
  serverAddress : String
  apiToken : String
  serverCompressor : String
  tls : Bool
  tlsCaFile : String
  connectTimeout : Float
  logLevel : String
  logFormat : String
  logFile : String
  backupType : String
  compressionAlgorithm : String
  encryptionAlgorithm : String
  description : String
  storageName : String
  restoreMetadataFile : String
  skipUsersAndRoles : Bool
  verbose : Bool
  deriving DecidableEq

namespace Settings

def get (s : Settings) : (k : Setting) → k.Value
  | .serverAddress => s.serverAddress
  | .apiToken => s.apiToken
  | .serverCompressor => s.serverCompressor
  | .tls => s.tls
  | .tlsCaFile => s.tlsCaFile
  | .connectTimeout => s.connectTimeout
  | .logLevel => s.logLevel
  | .logFormat => s.logFormat
  | .logFile => s.logFile
  | .backupType => s.backupType
  | .compressionAlgorithm => s.compressionAlgorithm
  | .encryptionAlgorithm => s.encryptionAlgorithm
  | .description => s.description
  | .storageName => s.storageName
  | .restoreMetadataFile => s.restoreMetadataFile
  | .skipUsersAndRoles => s.skipUsersAndRoles
  | .verbose => s.verbose

def ofValues (value : (k : Setting) → k.Value) : Settings :=
  { serverAddress := value .serverAddress
    apiToken := value .apiToken
    serverCompressor := value .serverCompressor
    tls := value .tls
    tlsCaFile := value .tlsCaFile
    connectTimeout := value .connectTimeout
    logLevel := value .logLevel
    logFormat := value .logFormat
    logFile := value .logFile
    backupType := value .backupType
    compressionAlgorithm := value .compressionAlgorithm
    encryptionAlgorithm := value .encryptionAlgorithm
    description := value .description
    storageName := value .storageName
    restoreMetadataFile := value .restoreMetadataFile
    skipUsersAndRoles := value .skipUsersAndRoles
    verbose := value .verbose }

theorem get_ofValues (value : (k : Setting) → k.Value) (k : Setting) :
    (ofValues value).get k = value k := by
  cases k <;> rfl

theorem ext_get {s t : Settings} (h : ∀ k, s.get k = t.get k) : s = t := by
  cases s
  cases t
  simp only [Settings.mk.injEq]
  exact ⟨h .serverAddress, h .apiToken, h .serverCompressor, h .tls, h .tlsCaFile,
    h .connectTimeout, h .logLevel, h .logFormat, h .logFile, h .backupType,
    h .compressionAlgorithm, h .encryptionAlgorithm, h .description, h .storageName,
    h .restoreMetadataFile, h .skipUsersAndRoles, h .verbose⟩

def given (s : Settings) (k : Setting) : Given := k.shape.give (s.get k)

end Settings

abbrev Layer := List (Setting × Given)

namespace Layer

def get? : Layer → Setting → Option Given
  | [], _ => none
  | (j, v) :: rest, k => if j = k then some v else get? rest k

def set : Layer → Setting → Given → Layer
  | [], k, v => [(k, v)]
  | (j, w) :: rest, k, v => if j = k then (k, v) :: rest else (j, w) :: set rest k v

def update (below above : Layer) : Layer :=
  above.foldl (fun layer (k, v) => layer.set k v) below

theorem get?_set (layer : Layer) (k j : Setting) (v : Given) :
    (layer.set k v).get? j = if k = j then some v else layer.get? j := by
  induction layer with
  | nil => simp [set, get?]
  | cons entry rest ih =>
    obtain ⟨i, w⟩ := entry
    by_cases hik : i = k <;> by_cases hkj : k = j <;> by_cases hij : i = j <;>
      simp_all [set, get?]

end Layer

def defaultLayer : Layer := [
  (.serverAddress, .text "127.0.0.1:10001"), (.apiToken, .text ""),
  (.serverCompressor, .text "gzip"), (.tls, .bool false), (.tlsCaFile, .text ""),
  (.connectTimeout, .real 10.0), (.logLevel, .text "WARNING"), (.logFormat, .text "console"),
  (.logFile, .text ""), (.backupType, .text "logical"), (.compressionAlgorithm, .text ""),
  (.encryptionAlgorithm, .text ""), (.description, .text ""), (.storageName, .text ""),
  (.restoreMetadataFile, .text ""), (.skipUsersAndRoles, .bool false), (.verbose, .bool false)]

def Settings.assign (_ : Settings) (name : String) (_ : Given) : Except (List Fault) Settings :=
  .error [⟨name, .frozen⟩]

def Layer.checked (layer : Layer) (k : Setting) : Except Flaw k.Value :=
  match layer.get? k with
  | some g => k.check g
  | none => .error .missing

def faultOf {α : Type} (place : String) : Except Flaw α → Option Fault
  | .ok _ => none
  | .error flaw => some ⟨place, flaw⟩

/-- The settings a full layer stands for, or every fault in it: first those of the settings in
their order, then names that are no setting. -/
def Settings.ofLayer (layer : Layer) (strangers : List String := []) :
    Except (List Fault) Settings :=
  let faults := Setting.all.filterMap (fun k => faultOf k.name (layer.checked k)) ++
    strangers.map fun name => ⟨name, .notAllowed⟩
  if h : Setting.all.all (fun k => (layer.checked k).isOk) = true then
    if faults.isEmpty then
      .ok (Settings.ofValues fun k =>
        match hk : layer.checked k with
        | .ok v => v
        | .error _ => by
          have := List.all_eq_true.mp h k (Setting.mem_all k)
          simp [hk, Except.isOk, Except.toBool] at this)
    else .error faults
  else .error faults

end BackupConsole
