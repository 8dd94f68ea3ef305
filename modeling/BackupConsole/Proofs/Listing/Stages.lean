import BackupConsole.Command
import BackupConsole.Proofs.Run

set_option autoImplicit false

namespace BackupConsole

open Contract (Method)

inductive Listing
  | nodes
  | backups
  | storage
  deriving DecidableEq, Repr

namespace Listing

def command : Listing → Command
  | nodes => .listNodes
  | backups => .listBackups
  | storage => .listStorage

def method : Listing → Method
  | nodes => .getClients
  | backups => .backupsMetadata
  | storage => .listStorages

def subject : Listing → String
  | nodes => "connected agents"
  | backups => "available backups"
  | storage => "remote storage"

def complaint : Listing → String
  | nodes => "Cannot get the list of connected agents"
  | backups => "Cannot get the list of available backups"
  | storage => "Cannot get the storage list"

@[reducible]
def Item : Listing → Type
  | nodes => AgentRecord
  | backups => BackupEntry
  | storage => StorageRecord

@[reducible]
def Collection : Listing → Type
  | nodes => List AgentRecord
  | backups => List (String × BackupRecord)
  | storage => List StorageRecord

def script (c : Coordinator) : Listing → Script (List UInt8)
  | nodes => c.clients
  | backups => c.backups
  | storage => c.storages

def convert : (l : Listing) → List UInt8 → Except Failure l.Item
  | nodes => fun bytes => (received .client bytes).map AgentRecord.ofMessage
  | backups => Client.backupEntry
  | storage => fun bytes => (received .storageInfo bytes).map StorageRecord.ofMessage

def arrange : (l : Listing) → List l.Item → Except Failure l.Collection
  | nodes => Stream.sortByKey (fun a b => some (decide (a < b))) fun r => .ok r.nodeName
  | backups => Stream.mappingOf (· == ·) (fun e => .ok e.filename)
      (fun e => .ok (BackupRecord.ofMessage e.metadata)) fun _ => true
  | storage => .ok

def shown (s : Settings) : (l : Listing) → l.Collection → Output
  | nodes, agents =>
    .layout (if s.verbose then .connectedNodesVerbose else .connectedNodes) (.agents agents)
  | backups, [] => .line "No backups found"
  | backups, entry :: rest => .layout .availableBackups (.backups (entry :: rest))
  | storage, storages => .layout .availableStorages (.storages storages)

def drained (l : Listing) (c : Coordinator) : Run (List l.Item) :=
  Stream.drain l.subject l.convert (l.script c)

def collected (l : Listing) (interceptors : List (Interceptor String)) (c : Coordinator) :
    Run l.Collection := do
  let items ← Client.send interceptors .stream c.metadata l.method [] (l.drained c)
  Run.ofExcept (l.arrange items)

def listed (l : Listing) (c : Coordinator) (interceptors : List (Interceptor String)) :
    Run (Option l.Collection) :=
  Command.listed l.complaint (l.collected interceptors c)

theorem storages_eq (interceptors : List (Interceptor String)) (c : Coordinator) :
    Client.storages interceptors c = storage.collected interceptors c :=
  (bind_pure (m := Run) _).symm

theorem perform_eq (l : Listing) (files : Files) (s : Settings) (c : Coordinator) :
    l.command.perform files s c = (do
      let found ← Channel.withOpen files s c.readiness (l.listed c)
      match found with
      | none => return ()
      | some collection => (l.shown s collection).write) := by
  cases l with
  | nodes =>
    refine bind_congr fun found => ?_
    cases found <;> rfl
  | backups =>
    refine bind_congr fun found => ?_
    match found with
    | none => rfl
    | some [] => rfl
    | some (entry :: rest) => rfl
  | storage =>
    simp only [command, Command.perform, storages_eq]
    refine bind_congr fun found => ?_
    cases found <;> rfl

end Listing

end BackupConsole
