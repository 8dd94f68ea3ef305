import BackupConsole.Given

set_option autoImplicit false

namespace BackupConsole

inductive Shape
  | text
  | bool
  | real
  deriving DecidableEq, Repr

namespace Shape

@[reducible]
def Value : Shape → Type
  | text => String
  | bool => Bool
  | real => Float

def coerce : (s : Shape) → Given → Except Flaw s.Value
  | text, g => g.toText
  | bool, g => g.toBool
  | real, g => g.toReal

def give : (s : Shape) → s.Value → Given
  | text, v => .text v
  | bool, v => .bool v
  | real, v => .real v

theorem coerce_give (s : Shape) (v : s.Value) : s.coerce (s.give v) = .ok v := by
  cases s <;> rfl

end Shape

inductive Setting
  | serverAddress
  | apiToken
  | serverCompressor
  | tls
  | tlsCaFile
  | connectTimeout
  | logLevel
  | logFormat
  | logFile
  | backupType
  | compressionAlgorithm
  | encryptionAlgorithm
  | description
  | storageName
  | restoreMetadataFile
  | skipUsersAndRoles
  | verbose
  deriving DecidableEq, Repr

namespace Setting

def all : List Setting := [
  serverAddress, apiToken, serverCompressor, tls, tlsCaFile, connectTimeout, logLevel, logFormat,
  logFile, backupType, compressionAlgorithm, encryptionAlgorithm, description, storageName,
  restoreMetadataFile, skipUsersAndRoles, verbose]

theorem mem_all (s : Setting) : s ∈ all := by cases s <;> simp [all]

def name : Setting → String
  | serverAddress => "server_address"
  | apiToken => "api_token"
  | serverCompressor => "server_compressor"
  | tls => "tls"
  | tlsCaFile => "tls_ca_file"
  | connectTimeout => "connect_timeout"
  | logLevel => "log_level"
  | logFormat => "log_format"
  | logFile => "log_file"
  | backupType => "backup_type"
  | compressionAlgorithm => "compression_algorithm"
  | encryptionAlgorithm => "encryption_algorithm"
  | description => "description"
  | storageName => "storage_name"
  | restoreMetadataFile => "restore_metadata_file"
  | skipUsersAndRoles => "skip_users_and_roles"
  | verbose => "verbose"

def ofName? (s : String) : Option Setting := all.find? fun setting => setting.name == s

@[reducible]
def shape : Setting → Shape
  | tls => .bool
  | skipUsersAndRoles => .bool
  | verbose => .bool
  | connectTimeout => .real
  | _ => .text

abbrev Value (s : Setting) : Type := s.shape.Value

def levels : List String := ["DEBUG", "INFO", "WARNING", "ERROR", "CRITICAL"]

def compressors : List String := ["gzip", "deflate", "none", ""]

def logFormats : List String := ["console", "json"]

/-- Upper case as far as names of levels need it: besides ASCII only the dotless i and the long s
become ASCII capitals. -/
def upperLevel (s : String) : String :=
  String.ofList (s.toList.map fun c =>
    if c = 'ı' then 'I' else if c = 'ſ' then 'S' else c.toUpper)

def accept : (s : Setting) → s.Value → Except Flaw s.Value
  | serverAddress, (v : String) =>
    if v.toList.all Text.isBlank then .error (.rejected .emptyAddress) else .ok v
  | serverCompressor, (v : String) =>
    if compressors.contains v then .ok v else .error (.rejected (.compressor v))
  | connectTimeout, (v : Float) =>
    if v ≤ 0.0 then .error (.rejected .timeout) else .ok v
  | logLevel, (v : String) =>
    if levels.contains (upperLevel v) then .ok (upperLevel v)
    else .error (.rejected (.logLevel v))
  | logFormat, (v : String) =>
    if logFormats.contains v then .ok v else .error (.rejected (.logFormat v))
  | _, v => .ok v

def check (s : Setting) (g : Given) : Except Flaw s.Value :=
  s.shape.coerce g >>= s.accept

end Setting

end BackupConsole
