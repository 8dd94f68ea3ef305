import BackupConsole.Contract
import BackupConsole.Datum
import BackupConsole.Cause

set_option autoImplicit false

namespace BackupConsole

open Contract (Msg)

structure AgentRecord where
  nodeName : String
  nodeType : String := ""
  replicasetName : String := ""
  clusterId : String := ""
  agentId : String := ""
  version : String := ""
  lastSeen : Int := 0
  deriving DecidableEq, Repr

structure BackupRecord where
  description : String := ""
  backupType : String := ""
  compressionType : String := ""
  storageName : String := ""
  startTs : Int := 0
  endTs : Int := 0
  deriving DecidableEq, Repr

structure StorageRecord where
  name : String
  type : String := ""
  valid : Bool := false
  canRead : Bool := false
  canWrite : Bool := false
  deriving DecidableEq, Repr

abbrev GivenFields := List (String × Given)

namespace GivenFields

def read {α : Type} (fields : GivenFields) (coerce : Given → Except Flaw α) (name : String)
    (default : Option α) : Except Fault α :=
  match fields.lookup name with
  | some g => (coerce g).mapError (⟨name, ·⟩)
  | none => match default with
    | some a => .ok a
    | none => .error ⟨name, .missing⟩

def fault? {α : Type} : Except Fault α → List Fault
  | .ok _ => []
  | .error fault => [fault]

end GivenFields

namespace AgentRecord

def ofMessage : Msg .client → AgentRecord
  | (version, agentId, nodeType, nodeName, clusterId, replicasetName, _, _, lastSeen, _) =>
    { nodeName, nodeType, replicasetName, clusterId, agentId, version
      lastSeen := lastSeen.toInt }

def ofFields (fields : GivenFields) : Except (List Fault) AgentRecord :=
  let nodeName := fields.read Given.toText "node_name" none
  let nodeType := fields.read Given.toText "node_type" (some "")
  let replicasetName := fields.read Given.toText "replicaset_name" (some "")
  let clusterId := fields.read Given.toText "cluster_id" (some "")
  let agentId := fields.read Given.toText "agent_id" (some "")
  let version := fields.read Given.toText "version" (some "")
  let lastSeen := fields.read Given.toInteger "last_seen" (some 0)
  match nodeName, nodeType, replicasetName, clusterId, agentId, version, lastSeen with
  | .ok nodeName, .ok nodeType, .ok replicasetName, .ok clusterId, .ok agentId, .ok version,
    .ok lastSeen =>
    .ok { nodeName, nodeType, replicasetName, clusterId, agentId, version, lastSeen }
  | _, _, _, _, _, _, _ =>
    .error (([nodeName, nodeType, replicasetName, clusterId, agentId, version].flatMap
      GivenFields.fault?) ++ GivenFields.fault? lastSeen)

def toEntries (r : AgentRecord) : List (String × Datum) := [
  ("node_name", .text r.nodeName), ("node_type", .text r.nodeType),
  ("replicaset_name", .text r.replicasetName), ("cluster_id", .text r.clusterId),
  ("agent_id", .text r.agentId), ("version", .text r.version), ("last_seen", .int r.lastSeen)]

end AgentRecord

namespace BackupRecord

def completed (r : BackupRecord) : Bool := decide (0 < r.endTs)

def ofMessage : Msg .backupMetadata → BackupRecord
  | (startTs, endTs, backupType, compressionType, _, description, storageName, _) =>
    { description, storageName
      backupType := Contract.backupTypeLabel backupType
      compressionType := Contract.compressionTypeLabel compressionType
      startTs := startTs.toInt
      endTs := endTs.toInt }

def ofFields (fields : GivenFields) : Except (List Fault) BackupRecord :=
  let description := fields.read Given.toText "description" (some "")
  let backupType := fields.read Given.toText "backup_type" (some "")
  let compressionType := fields.read Given.toText "compression_type" (some "")
  let storageName := fields.read Given.toText "storage_name" (some "")
  let startTs := fields.read Given.toInteger "start_ts" (some 0)
  let endTs := fields.read Given.toInteger "end_ts" (some 0)
  match description, backupType, compressionType, storageName, startTs, endTs with
  | .ok description, .ok backupType, .ok compressionType, .ok storageName, .ok startTs,
    .ok endTs =>
    .ok { description, backupType, compressionType, storageName, startTs, endTs }
  | _, _, _, _, _, _ =>
    .error (([description, backupType, compressionType, storageName].flatMap
      GivenFields.fault?) ++ [startTs, endTs].flatMap GivenFields.fault?)

def toEntries (r : BackupRecord) : List (String × Datum) := [
  ("description", .text r.description), ("backup_type", .text r.backupType),
  ("compression_type", .text r.compressionType), ("storage_name", .text r.storageName),
  ("start_ts", .int r.startTs), ("end_ts", .int r.endTs)]

end BackupRecord

namespace StorageRecord

def ofMessage : Msg .storageInfo → StorageRecord
  | (name, type, valid, canRead, canWrite, _) => { name, type, valid, canRead, canWrite }

def ofFields (fields : GivenFields) : Except (List Fault) StorageRecord :=
  let name := fields.read Given.toText "name" none
  let type := fields.read Given.toText "type" (some "")
  let valid := fields.read Given.toBool "valid" (some false)
  let canRead := fields.read Given.toBool "can_read" (some false)
  let canWrite := fields.read Given.toBool "can_write" (some false)
  match name, type, valid, canRead, canWrite with
  | .ok name, .ok type, .ok valid, .ok canRead, .ok canWrite =>
    .ok { name, type, valid, canRead, canWrite }
  | _, _, _, _, _ =>
    .error ([name, type].flatMap GivenFields.fault? ++
      [valid, canRead, canWrite].flatMap GivenFields.fault?)

def toEntries (r : StorageRecord) : List (String × Datum) := [
  ("name", .text r.name), ("type", .text r.type), ("valid", .bool r.valid),
  ("can_read", .bool r.canRead), ("can_write", .bool r.canWrite)]

end StorageRecord

/-- A stored backup as the coordinator streams it: the name of its metadata file, and the backup.
Absent metadata reads as empty. -/
structure BackupEntry where
  filename : String
  metadata : Msg .backupMetadata

namespace BackupEntry

def ofMessage : Msg .metadataFile → BackupEntry
  | (filename, metadata, _) =>
    { filename
      metadata := metadata.getD (Wire.Row.empty Contract.backupMetadataFields) }

def description (e : BackupEntry) : String := (BackupRecord.ofMessage e.metadata).description

end BackupEntry

end BackupConsole
