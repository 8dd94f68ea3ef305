import BackupConsole.Contract
import BackupConsole.Settings.Basic
import BackupConsole.Cause

set_option autoImplicit false

namespace BackupConsole

open Contract (Msg)

structure BackupRequest where
  backupType : Int32
  compressionType : Int32
  cypher : Int32
  description : String
  storageName : String
  deriving DecidableEq

structure RestoreRequest where
  metadataFile : String
  skipUsersAndRoles : Bool
  storageName : String
  deriving DecidableEq

def backupTypeOf? (name : String) : Option Int32 :=
  match name with
  | "logical" => some 0
  | "hot" => some 1
  | _ => none

def compressionTypeOf? (name : String) : Option Int32 :=
  match name with
  | "" => some 0
  | "none" => some 0
  | "gzip" => some 1
  | _ => none

namespace BackupRequest

def ofSettings (s : Settings) : Except Cause BackupRequest :=
  match backupTypeOf? s.backupType with
  | none => .error (.badBackupType s.backupType)
  | some backupType =>
    match compressionTypeOf? s.compressionAlgorithm with
    | none => .error (.badCompression s.compressionAlgorithm)
    | some compressionType =>
      if s.encryptionAlgorithm = "" then
        .ok { backupType, compressionType, cypher := 0, description := s.description
              storageName := s.storageName }
      else .error .encryptionRequested

def toMessage (r : BackupRequest) : Msg .runBackupParams :=
  (r.backupType, r.compressionType, r.cypher, r.description, r.storageName, ())

end BackupRequest

namespace RestoreRequest

def ofSettings (s : Settings) : RestoreRequest :=
  { metadataFile := s.restoreMetadataFile
    skipUsersAndRoles := s.skipUsersAndRoles
    storageName := s.storageName }

def toMessage (r : RestoreRequest) : Msg .runRestoreParams :=
  (r.metadataFile, r.skipUsersAndRoles, r.storageName, ())

end RestoreRequest

end BackupConsole
