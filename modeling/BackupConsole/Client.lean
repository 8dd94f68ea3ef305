import BackupConsole.Channel
import BackupConsole.Record

set_option autoImplicit false

namespace BackupConsole

open Contract (Method Msg MessageType)

/-- How the coordinator behaves: towards the channel, for each listing, and for an operation.
`metadata` is what calls carry before they are authorized. -/
structure Coordinator where
  readiness : Readiness := {}
  clients : Script (List UInt8) := { items := [] }
  backups : Script (List UInt8) := { items := [] }
  storages : Script (List UInt8) := { items := [] }
  operation : Ending := .complete
  reply : List UInt8 := []
  metadata : Metadata := []

def received (t : MessageType) (bytes : List UInt8) : Except Failure (Msg t) :=
  match Contract.decode t bytes with
  | some m => .ok m
  | none => .error .malformedMessage

namespace Client

variable {α : Type}

def send (interceptors : List (Interceptor String)) (shape : CallShape) (metadata : Metadata)
    (method : Method) (request : List UInt8) (answer : Run α) : Run α :=
  let last : Continuation Unit (List UInt8) α := fun details request => do
    Run.emit (.sent {
      method := details.method
      metadata := details.metadata.getD []
      request := request })
    answer
  Interceptor.run (interceptors.map (.map .credential)) shape last
    { method := method.path, metadata := some metadata, options := () } request

def connectedAgents (interceptors : List (Interceptor String)) (c : Coordinator) :
    Run (List AgentRecord) := do
  let agents ← send interceptors .stream c.metadata .getClients []
    (Stream.drain "connected agents"
      (fun bytes => (received .client bytes).map AgentRecord.ofMessage) c.clients)
  Run.ofExcept (Stream.sortByKey (fun a b => some (decide (a < b)))
    (fun r : AgentRecord => .ok r.nodeName) agents)

def backupEntry (bytes : List UInt8) : Except Failure BackupEntry :=
  (received .metadataFile bytes).map BackupEntry.ofMessage

def availableBackups (interceptors : List (Interceptor String)) (c : Coordinator) :
    Run (List (String × BackupRecord)) := do
  let entries ← send interceptors .stream c.metadata .backupsMetadata []
    (Stream.drain "available backups" backupEntry c.backups)
  Run.ofExcept (Stream.mappingOf (· == ·) (fun e : BackupEntry => .ok e.filename)
    (fun e => .ok (BackupRecord.ofMessage e.metadata)) (fun _ => true) entries)

def storages (interceptors : List (Interceptor String)) (c : Coordinator) :
    Run (List StorageRecord) :=
  send interceptors .stream c.metadata .listStorages []
    (Stream.drain "remote storage"
      (fun bytes => (received .storageInfo bytes).map StorageRecord.ofMessage) c.storages)

def logger : String := "backupctl.client.coordinator"

def operate (interceptors : List (Interceptor String)) (c : Coordinator) (method : Method)
    (request : List UInt8) : Run Unit :=
  let answer : Run Unit := do
    c.operation.act
    let _ ← Run.ofExcept (received .runOperationResponse c.reply)
    return ()
  (send interceptors .unary c.metadata method request answer).recover fun
    | .rpc e => some (.fail (.refused (.callFailed method.name e)))
    | _ => none

def runBackup (interceptors : List (Interceptor String)) (c : Coordinator)
    (params : Msg .runBackupParams) : Run Unit := do
  let (backupType, _, _, _, storageName, _) := params
  match Contract.backupType.label? backupType.toInt with
  | none => .fail (.badValue none)
  | some label =>
    Run.log .info logger "Sending RunBackup"
      [("storage", .text storageName), ("backup_type", .text label)]
    operate interceptors c .runBackup (Contract.encode params)

def runRestore (interceptors : List (Interceptor String)) (c : Coordinator)
    (params : Msg .runRestoreParams) : Run Unit := do
  let (metadataFile, _, storageName, _) := params
  Run.log .info logger "Sending RunRestore"
    [("metadata_file", .text metadataFile), ("storage", .text storageName)]
  operate interceptors c .runRestore (Contract.encode params)

end Client

end BackupConsole
