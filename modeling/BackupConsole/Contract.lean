import BackupConsole.Wire.Message

set_option autoImplicit false

namespace BackupConsole.Contract

open Wire

def packageName : String := "api"

def backupType : Enumeration :=
  ⟨"BackupType", [("BACKUP_TYPE_LOGICAL", 0), ("BACKUP_TYPE_HOTBACKUP", 1)]⟩

def compressionType : Enumeration :=
  ⟨"CompressionType", [("COMPRESSION_TYPE_NO_COMPRESSION", 0), ("COMPRESSION_TYPE_GZIP", 1),
    ("COMPRESSION_TYPE_SNAPPY", 2), ("COMPRESSION_TYPE_LZ4", 3)]⟩

def cypher : Enumeration :=
  ⟨"Cypher", [("CYPHER_NO_CYPHER", 0), ("CYPHER_AES", 1), ("CYPHER_RC4", 2)]⟩

def enumerations : List Enumeration := [backupType, compressionType, cypher]

def label (e : Enumeration) (lead : String) (n : Int) : String :=
  match e.label? n with
  | some name => String.ofList ((name.toList.drop lead.length).map Char.toLower)
  | none => toString n

def backupTypeLabel (n : Int32) : String := label backupType "BACKUP_TYPE_" n.toInt

def compressionTypeLabel (n : Int32) : String :=
  label compressionType "COMPRESSION_TYPE_" n.toInt

def backupMetadataFields : List LeafField := [
  ⟨"start_ts", 1, .int64⟩, ⟨"end_ts", 2, .int64⟩, ⟨"backup_type", 3, .enum backupType⟩,
  ⟨"compression_type", 5, .enum compressionType⟩, ⟨"cypher", 6, .enum cypher⟩,
  ⟨"description", 7, .text⟩, ⟨"storage_name", 9, .text⟩]

def errorFields : List LeafField := [⟨"message", 1, .text⟩]

inductive MessageType
  | empty
  | client
  | backupsMetadataParams
  | backupMetadata
  | metadataFile
  | listStoragesParams
  | storageInfo
  | runBackupParams
  | runRestoreParams
  | error
  | runOperationResponse
  deriving DecidableEq, Repr

namespace MessageType

def all : List MessageType := [
  empty, client, backupsMetadataParams, backupMetadata, metadataFile, listStoragesParams,
  storageInfo, runBackupParams, runRestoreParams, error, runOperationResponse]

def name : MessageType → String
  | empty => "Empty"
  | client => "Client"
  | backupsMetadataParams => "BackupsMetadataParams"
  | backupMetadata => "BackupMetadata"
  | metadataFile => "MetadataFile"
  | listStoragesParams => "ListStoragesParams"
  | storageInfo => "StorageInfo"
  | runBackupParams => "RunBackupParams"
  | runRestoreParams => "RunRestoreParams"
  | error => "Error"
  | runOperationResponse => "RunOperationResponse"

def fullName (t : MessageType) : String := packageName ++ "." ++ t.name

def ofName? (s : String) : Option MessageType := all.find? fun t => t.name == s

def leaves (fields : List LeafField) : List Field :=
  fields.map fun f => ⟨f.name, f.number, .leaf f.leaf⟩

@[reducible]
def fields : MessageType → List Field
  | empty => []
  | client => [
    ⟨"version", 1, .leaf .text⟩, ⟨"id", 2, .leaf .text⟩, ⟨"node_type", 3, .leaf .text⟩,
    ⟨"node_name", 4, .leaf .text⟩, ⟨"cluster_id", 5, .leaf .text⟩,
    ⟨"replicaset_name", 6, .leaf .text⟩, ⟨"replicaset_id", 7, .leaf .text⟩,
    ⟨"last_command_sent", 8, .leaf .int64⟩, ⟨"last_seen", 9, .leaf .int64⟩]
  | backupsMetadataParams => []
  | backupMetadata => leaves backupMetadataFields
  | metadataFile => [
    ⟨"filename", 1, .leaf .text⟩, ⟨"metadata", 2, .message "BackupMetadata" backupMetadataFields⟩]
  | listStoragesParams => []
  | storageInfo => [
    ⟨"name", 1, .leaf .text⟩, ⟨"type", 2, .leaf .text⟩, ⟨"valid", 3, .leaf .bool⟩,
    ⟨"can_read", 4, .leaf .bool⟩, ⟨"can_write", 5, .leaf .bool⟩]
  | runBackupParams => [
    ⟨"backup_type", 1, .leaf (.enum backupType)⟩,
    ⟨"compression_type", 2, .leaf (.enum compressionType)⟩,
    ⟨"cypher", 3, .leaf (.enum cypher)⟩, ⟨"description", 4, .leaf .text⟩,
    ⟨"storage_name", 5, .leaf .text⟩]
  | runRestoreParams => [
    ⟨"metadata_file", 1, .leaf .text⟩, ⟨"skip_users_and_roles", 2, .leaf .bool⟩,
    ⟨"storage_name", 3, .leaf .text⟩]
  | error => leaves errorFields
  | runOperationResponse => [⟨"error", 1, .messages "Error" errorFields⟩]

end MessageType

abbrev Msg (t : MessageType) : Type := Message t.fields

def encode {t : MessageType} (m : Msg t) : List UInt8 := Message.encode t.fields m

def decode (t : MessageType) (bs : List UInt8) : Option (Msg t) := Message.decode t.fields bs

inductive Method
  | getClients
  | backupsMetadata
  | listStorages
  | runBackup
  | runRestore
  deriving DecidableEq, Repr

def Method.name : Method → String
  | getClients => "GetClients"
  | backupsMetadata => "BackupsMetadata"
  | listStorages => "ListStorages"
  | runBackup => "RunBackup"
  | runRestore => "RunRestore"

def methodPath (name : String) : String := "/" ++ packageName ++ ".Api/" ++ name

def Method.path (m : Method) : String := methodPath m.name

end BackupConsole.Contract
