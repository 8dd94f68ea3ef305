import BackupConsole.Layout.Timestamp
import BackupConsole.Record
import BackupConsole.Text.Lines
import BackupConsole.Text.Lowercase

set_option autoImplicit false

namespace BackupConsole.Layout

structure Subject where
  typeName : String
  field? : String → Option Datum

def Subject.ofDatum (d : Datum) : Subject :=
  { typeName := match d with
      | .null => "None"
      | d => d.typeName ++ " object"
    field? := fun name => match d with
      | .dict entries => entries.lookup name
      | _ => none }

def Subject.ofRecord (name : String) (entries : List (String × Datum)) : Subject :=
  { typeName := "backupctl.client.models." ++ name ++ " object"
    field? := fun name => entries.lookup name }

/-- One part of a row. `padded` fills a column; `ended` shows the end of a backup, or that it is
still running. -/
inductive Piece
  | text (s : String)
  | label (width : Nat)
  | shown (field : String)
  | padded (width : Nat) (field : String)
  | yesNo (field : String)
  | time (field : String)
  | ended (width : Nat)
  deriving DecidableEq, Repr

inductive Template
  | connectedNodes
  | connectedNodesVerbose
  | availableBackups
  | availableStorages
  | version
  deriving DecidableEq, Repr

namespace Template

def name : Template → String
  | connectedNodes => "connected_nodes"
  | connectedNodesVerbose => "connected_nodes_verbose"
  | availableBackups => "available_backups"
  | availableStorages => "available_storages"
  | version => "version"

def all : List Template :=
  [connectedNodes, connectedNodesVerbose, availableBackups, availableStorages, version]

def ofName? (s : String) : Option Template := all.find? fun t => t.name == s

def fileName (t : Template) : String := t.name ++ ".txt.j2"

def storageRule : String := String.ofList (List.replicate 97 '-') ++ "\n"

def heading : Template → String
  | connectedNodes =>
    "          Node Name          |  Node Type   |          Replicaset          " ++
    "|      Cluster ID\n" ++
    "-----------------------------+--------------+------------------------------" ++
    "+----------------------\n"
  | availableBackups =>
    "            Metadata file name           |  Type   |     Finished        | Description\n" ++
    "-----------------------------------------+---------+---------------------" ++
    "+------------------------\n"
  | availableStorages => "Available Storages:\n" ++ storageRule
  | _ => ""

def row : Template → List Piece
  | connectedNodes => [
    .padded 28 "node_name", .text " | ", .padded 12 "node_type", .text " | ",
    .padded 28 "replicaset_name", .text " | ", .shown "cluster_id", .text "\n"]
  | connectedNodesVerbose => [
    .text "Node Name       : ", .shown "node_name",
    .text "\n  Node Type     : ", .shown "node_type",
    .text "\n  Agent ID      : ", .shown "agent_id",
    .text "\n  Agent Version : ", .shown "version",
    .text "\n  Replicaset    : ", .shown "replicaset_name",
    .text "\n  Cluster ID    : ", .shown "cluster_id",
    .text "\n  Last Seen     : ", .time "last_seen", .text "\n"]
  | availableBackups => [
    .label 40, .text " | ", .padded 7 "backup_type", .text " | ", .ended 19, .text " | ",
    .shown "description", .text "\n"]
  | availableStorages => [
    .text "Name         : ", .shown "name",
    .text "\n  Type       : ", .shown "type",
    .text "\n  Valid      : ", .yesNo "valid",
    .text "\n  Can read   : ", .yesNo "can_read",
    .text "\n  Can write  : ", .yesNo "can_write",
    .text ("\n" ++ storageRule)]
  | version => [
    .text "Version       : ", .shown "version",
    .text "\nCommit        : ", .shown "commit",
    .text "\nBuild         : ", .shown "build",
    .text "\nBranch        : ", .shown "branch",
    .text "\nPython version: ", .shown "python_version", .text "\n"]

end Template

def fieldOf (t : Template) (s : Subject) (field : String) : Except Failure Datum :=
  match s.field? field with
  | some d => .ok d
  | none => .error (.refused (.noField t.fileName s.typeName field))

def pieceText (t : Template) (label : String) (s : Subject) : Piece → Except Failure String
  | .text text => .ok text
  | .label width => .ok (Text.padRight width label)
  | .shown field => (fieldOf t s field).map Datum.display
  | .padded width field => (fieldOf t s field).map fun d => Text.padRight width d.display
  | .yesNo field => (fieldOf t s field).map fun d => if d.truthy then "yes" else "no"
  | .time field => fieldOf t s field >>= timestampOf
  | .ended width => do
    let completed ← fieldOf t s "completed"
    let text ← if completed.truthy then fieldOf t s "end_ts" >>= timestampOf else pure "running"
    return Text.padRight width text

def rowText (t : Template) (label : String) (s : Subject) : Except Failure String :=
  (t.row.mapM (pieceText t label s)).map String.join

def rowsText (t : Template) (rows : List (String × Subject)) : Except Failure String := do
  let texts ← rows.mapM fun (label, s) => rowText t label s
  return t.heading ++ String.join texts

-- Entries in the order of their labels in lower case; equal ones stay in the order given.
def sortByLabel {α : Type} (entries : List (String × α)) : List (String × α) :=
  let keyed := entries.map fun e => (Text.lower e.1, e)
  (keyed.mergeSort fun a b => !decide (b.1 < a.1)).map (·.2)

def agentSubject (r : AgentRecord) : Subject := .ofRecord "AgentRecord" r.toEntries

def storageSubject (r : StorageRecord) : Subject := .ofRecord "StorageDescriptor" r.toEntries

def backupSubject (r : BackupRecord) : Subject :=
  .ofRecord "BackupRecord" (r.toEntries ++ [("completed", .bool r.completed)])

inductive Data
  | agents (rows : List AgentRecord)
  | backups (entries : List (String × BackupRecord))
  | storages (rows : List StorageRecord)
  | raw (d : Datum)

namespace Data

def items : Data → Except Failure (List Subject)
  | agents rows => .ok (rows.map agentSubject)
  | backups entries => .ok (entries.map fun (name, _) => .ofDatum (.text name))
  | storages rows => .ok (rows.map storageSubject)
  | raw (.list ds) => .ok (ds.map .ofDatum)
  | raw (.text s) => .ok (s.toList.map fun c => .ofDatum (.text (String.singleton c)))
  | raw (.dict entries) => .ok (entries.map fun (key, _) => .ofDatum (.text key))
  | raw _ => .error .wrongType

def entries : Data → Except Failure (List (String × Subject))
  | backups entries => .ok (entries.map fun (name, r) => (name, backupSubject r))
  | raw (.dict entries) => .ok (entries.map fun (key, d) => (key, .ofDatum d))
  | _ => .error .missingAttribute

def subject : Data → Subject
  | agents _ => .ofDatum (.list [])
  | backups _ => .ofDatum (.dict [])
  | storages _ => .ofDatum (.list [])
  | raw d => .ofDatum d

end Data

def render (t : Template) (data : Data) : Except Failure String :=
  match t with
  | .version => rowsText t [("", data.subject)]
  | .availableBackups => do
    let entries ← data.entries
    rowsText t (sortByLabel entries)
  | t => do
    let items ← data.items
    rowsText t (items.map fun s => ("", s))

end BackupConsole.Layout
