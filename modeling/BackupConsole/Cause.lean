import BackupConsole.Fault
import BackupConsole.Files.Basic
import BackupConsole.Number.Rounded

set_option autoImplicit false

namespace BackupConsole

structure RpcFault where
  code : Option String
  details : Option String
  text : String := ""
  deriving DecidableEq, Repr

def RpcFault.describe (e : RpcFault) : String :=
  match e.details with
  | some details =>
    if details != "" then details else if e.text != "" then e.text else "unknown error"
  | none => if e.text != "" then e.text else "unknown error"

theorem RpcFault.describe_ne_empty (e : RpcFault) : e.describe ≠ "" := by
  unfold describe
  split <;> (repeat' split) <;> simp_all

inductive Category
  | general
  | validation
  | unsupported
  | config
  | connection
  | credentials
  | remoteCall
  | stream
  | render
  deriving DecidableEq, Repr

def Category.code : Category → String
  | general => "SYS_INTERNAL_ERROR"
  | validation => "VAL_INVALID_VALUE"
  | unsupported => "VAL_UNSUPPORTED_FEATURE"
  | config => "CFG_INVALID"
  | connection => "NET_CONNECTION_FAILED"
  | credentials => "NET_CREDENTIALS"
  | remoteCall => "RPC_CALL_FAILED"
  | stream => "RPC_STREAM_FAILED"
  | render => "OUT_RENDER_FAILED"

def Category.defaultMessage? : Category → Option String
  | general => none
  | validation => some "Validation failed"
  | unsupported => some "Feature not supported"
  | config => some "Invalid configuration"
  | connection => some "Cannot connect to the backup coordinator"
  | credentials => some "Cannot load TLS credentials"
  | remoteCall => some "Remote call failed"
  | stream => some "Stream failed"
  | render => some "Cannot render output"

structure Report where
  category : Category
  message : String
  code : String
  status : Option String := none
  value : Option String := none
  deriving DecidableEq, Repr

def Report.ofCategory (category : Category) (message : String) : Report :=
  { category, message, code := category.code }

def Report.ofRpc (category : Category) (lead : String) (e : RpcFault) : Report :=
  { Report.ofCategory category (lead ++ ": " ++ e.describe) with status := e.code }

inductive Cause
  | noConfigFile (path : String)
  | unreadableConfig (path : String) (problem : FileProblem)
  | malformedConfig (path : String)
  | configNotMapping (path typeName : String)
  | invalidConfig (path : String) (faults : List Fault)
  | invalidEnvironment (faults : List Fault)
  | unknownSettings (names : List String)
  | invalidSettings (faults : List Fault)
  | badBackupType (value : String)
  | badCompression (value : String)
  | encryptionRequested
  | unreachable (address : String) (timeout : Float)
  | unsupportedCompressor (name : String)
  | unreadableCertificates (path : String) (problem : FileProblem)
  | noCertificate (path : String)
  | callFailed (command : String) (e : RpcFault)
  | streamFailed (operation : String) (e : RpcFault)
  | streamUnclosed (operation detail : String)
  | streamTimedOut (operation : String)
  | noField (template typeName field : String)
  deriving DecidableEq

namespace Cause

def category : Cause → Category
  | noConfigFile _ => .config
  | unreadableConfig _ _ => .config
  | malformedConfig _ => .config
  | configNotMapping _ _ => .config
  | invalidConfig _ _ => .config
  | invalidEnvironment _ => .config
  | unknownSettings _ => .config
  | invalidSettings _ => .config
  | badBackupType _ => .validation
  | badCompression _ => .validation
  | encryptionRequested => .unsupported
  | unreachable _ _ => .connection
  | unsupportedCompressor _ => .connection
  | unreadableCertificates _ _ => .credentials
  | noCertificate _ => .credentials
  | callFailed _ _ => .remoteCall
  | streamFailed _ _ => .stream
  | streamUnclosed _ _ => .stream
  | streamTimedOut _ => .stream
  | noField _ _ _ => .render

-- One line; a cause with faults ends its line in a colon and leaves the faults to follow.
def message : Cause → String
  | noConfigFile path => "Config file not found: " ++ path
  | unreadableConfig path problem =>
    "Cannot read config file " ++ path ++ ": " ++ problem.message path
  | malformedConfig path => "Malformed config file " ++ path
  | configNotMapping path typeName =>
    "Config file " ++ path ++ " must contain a mapping, got " ++ typeName
  | invalidConfig path _ => "Invalid configuration in " ++ path ++ ":"
  | invalidEnvironment _ => "Invalid environment override:"
  | unknownSettings names => "Unknown setting(s): " ++ ", ".intercalate names
  | invalidSettings _ => "Invalid settings:"
  | badBackupType value => "backup type " ++ Text.quote value ++ " is invalid"
  | badCompression value => "compression algorithm " ++ Text.quote value ++ " is invalid"
  | encryptionRequested => "encryption is not implemented yet"
  | unreachable address timeout =>
    "Cannot connect to the backup coordinator at " ++ address ++ " within " ++
      Number.generalText 6 timeout ++ "s"
  | unsupportedCompressor name => "Unsupported server compressor " ++ Text.quote name
  | unreadableCertificates path problem =>
    "Failed to create TLS credentials from " ++ path ++ ": " ++ problem.message path
  | noCertificate path =>
    "Failed to create TLS credentials: " ++ path ++ " contains no PEM certificate"
  | callFailed command e =>
    "Cannot send the " ++ command ++ " command to the coordinator: " ++ e.describe
  | streamFailed operation e =>
    "Cannot get the list of " ++ operation ++ ": " ++ e.describe
  | streamUnclosed operation detail =>
    "Cannot close the stream for " ++ operation ++ ": " ++ detail
  | streamTimedOut operation => "Timed out reading the list of " ++ operation
  | noField template typeName field =>
    "Cannot render " ++ template ++ ": '" ++ typeName ++ "' has no attribute '" ++ field ++ "'"

def status : Cause → Option String
  | callFailed _ e => e.code
  | streamFailed _ e => e.code
  | _ => none

def value : Cause → Option String
  | badBackupType v => some v
  | badCompression v => some v
  | _ => none

def faults : Cause → List Fault
  | invalidConfig _ faults => faults
  | invalidEnvironment faults => faults
  | invalidSettings faults => faults
  | _ => []

def code (c : Cause) : String := c.category.code

def report (c : Cause) : Report :=
  { category := c.category, message := c.message, code := c.code, status := c.status
    value := c.value }

end Cause

/-- The classes of foreign errors that the program tells apart. A time-out is an error of the
system as well. -/
inductive ErrorClass
  | other
  | system
  | timeout
  deriving DecidableEq, Repr

/-- How a step can fail: with a cause the program reports, or with an error that passes through as
it is. -/
inductive Failure
  | refused (cause : Cause)
  | faulty (faults : List Fault)
  | raised (kind : ErrorClass) (text : String)
  | rpc (e : RpcFault)
  | cancelled
  | interrupted
  | timestampRange
  | badValue (message : Option String)
  | wrongType
  | missingKey
  | missingPosition
  | missingAttribute
  | overflow
  | tooDeep
  | malformedMessage
  | unreadableText
  | unusableFile (problem : FileProblem) (path : String)
  deriving DecidableEq

end BackupConsole
