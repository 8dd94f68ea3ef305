import BackupConsole.Proofs.Layout.Rows
import BackupConsole.Proofs.Listing.Stages
import BackupConsole.Proofs.Stream.Collection

set_option autoImplicit false

namespace BackupConsole

def Output.text : Output → Except Failure String
  | line message => .ok (message ++ "\n")
  | layout t data => Layout.render t data

namespace Listing

inductive Arranged : (l : Listing) → List l.Item → l.Collection → Prop
  | nodes {items agents : List AgentRecord}
      (sorted : Stream.StablySorted (fun a b => decide (a < b)) AgentRecord.nodeName items agents) :
      Arranged .nodes items agents
  | backups {items : List BackupEntry} {entries : List (String × BackupRecord)}
      (latest : Stream.LastWins
        (items.map fun e => (e.filename, BackupRecord.ofMessage e.metadata)) entries) :
      Arranged .backups items entries
  | storage {items : List StorageRecord} : Arranged .storage items items

theorem arrange_arranged (l : Listing) (items : List l.Item) :
    ∃ collection, l.arrange items = .ok collection ∧ l.Arranged items collection := by
  cases l with
  | nodes =>
    have order : Stream.StrictOrder fun a b : String => decide (a < b) :=
      { irrefl := by simp
        trans := fun a b c => by simpa using String.lt_trans }
    obtain ⟨agents, sorted, sorts⟩ := Stream.sortByKey_sorts order AgentRecord.nodeName items
    exact ⟨agents, sorted, .nodes sorts⟩
  | backups =>
    obtain ⟨entries, mapped, latest⟩ := Stream.mappingOf_lastWins BackupEntry.filename
      (fun e => BackupRecord.ofMessage e.metadata) items
    exact ⟨entries, mapped, .backups latest⟩
  | storage => exact ⟨items, rfl, .storage⟩

def nodesTemplate (s : Settings) : Layout.Template :=
  if s.verbose then .connectedNodesVerbose else .connectedNodes

open Layout in
inductive Shows (s : Settings) : (l : Listing) → l.Collection → String → Prop
  | nodes {agents : List AgentRecord} {text : String}
      (filled : Filled (nodesTemplate s) (agents.map fun r => ("", agentSubject r)) text) :
      Shows s .nodes agents text
  | noBackups : Shows s .backups [] "No backups found\n"
  | backups {entries : List (String × BackupRecord)} {text : String} (found : entries ≠ [])
      (filled : Filled .availableBackups
        (sortByLabel (entries.map fun (name, r) => (name, backupSubject r))) text) :
      Shows s .backups entries text
  | storage {storages : List StorageRecord} {text : String}
      (filled : Filled .availableStorages (storages.map fun r => ("", storageSubject r)) text) :
      Shows s .storage storages text

variable {s : Settings}

theorem text_nodes (agents : List AgentRecord) : (shown s .nodes agents).text =
    Layout.rowsText (nodesTemplate s) (agents.map fun r => ("", Layout.agentSubject r)) := by
  have rows : (agents.map Layout.agentSubject).map (fun subject => ("", subject)) =
      agents.map fun r => ("", Layout.agentSubject r) := List.map_map
  rw [← rows]
  simp only [shown, Output.text, nodesTemplate]
  cases s.verbose <;> rfl

theorem text_backups {entries : List (String × BackupRecord)} (found : entries ≠ []) :
    (shown s .backups entries).text = Layout.rowsText .availableBackups
      (Layout.sortByLabel (entries.map fun (name, r) => (name, Layout.backupSubject r))) := by
  obtain ⟨entry, rest, rfl⟩ := List.exists_cons_of_ne_nil found
  rfl

theorem text_storage (storages : List StorageRecord) : (shown s .storage storages).text =
    Layout.rowsText .availableStorages (storages.map fun r => ("", Layout.storageSubject r)) := by
  have rows : (storages.map Layout.storageSubject).map (fun subject => ("", subject)) =
      storages.map fun r => ("", Layout.storageSubject r) := List.map_map
  rw [← rows]
  rfl

theorem shown_text_iff {l : Listing} {collection : l.Collection} {text : String} :
    (l.shown s collection).text = .ok text ↔ Shows s l collection text := by
  cases l with
  | nodes =>
    rw [text_nodes, Layout.rowsText_eq_ok_iff]
    constructor
    · exact .nodes
    · intro shows
      cases shows with
      | nodes filled => exact filled
  | backups =>
    by_cases found : collection = []
    · rw [found]
      constructor
      · intro written
        cases written
        exact .noBackups
      · intro shows
        cases shows with
        | noBackups => rfl
        | backups found => exact absurd rfl found
    · rw [text_backups found, Layout.rowsText_eq_ok_iff]
      constructor
      · exact .backups found
      · intro shows
        cases shows with
        | noBackups => exact absurd rfl found
        | backups _ filled => exact filled
  | storage =>
    rw [text_storage, Layout.rowsText_eq_ok_iff]
    constructor
    · exact .storage
    · intro shows
      cases shows with
      | storage filled => exact filled

end Listing

end BackupConsole
