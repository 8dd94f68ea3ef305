import BackupConsole.Proofs.Stream.Drain
import BackupConsole.Proofs.Wire.Strangers
import BackupConsole.Session

set_option autoImplicit false

namespace BackupConsole

open Contract (Msg MessageType)

inductive Contract.Enriched (t : MessageType) : List UInt8 → List UInt8 → Prop
  | same {bs : List UInt8} : Enriched t bs bs
  | more {m : Msg t} {bs : List UInt8} (carried : m.Carried bs) : Enriched t (encode m) bs

theorem Contract.decode_of_carried {t : MessageType} {m : Msg t} {bs : List UInt8}
    (carried : m.Carried bs) : decode t bs = some m ∧ decode t (encode m) = some m := by
  obtain ⟨decoded, fits⟩ := Wire.Message.decode_of_carried t.sound carried
  exact ⟨decoded, decode_encode.2 ⟨rfl, fits⟩⟩

theorem received_enriched {t : MessageType} {bs more : List UInt8}
    (enriched : Contract.Enriched t bs more) : received t more = received t bs := by
  cases enriched with
  | same => rfl
  | more carried =>
    obtain ⟨decoded, plain⟩ := Contract.decode_of_carried carried
    rw [received, received, decoded, plain]

namespace Coordinator

/-- Two coordinators of which the second one has more fields in its messages. -/
structure Enriched (c c' : Coordinator) : Prop where
  clients : List.Forall₂ (Contract.Enriched .client) c.clients.items c'.clients.items
  backups : List.Forall₂ (Contract.Enriched .metadataFile) c.backups.items c'.backups.items
  storages : List.Forall₂ (Contract.Enriched .storageInfo) c.storages.items c'.storages.items
  reply : Contract.Enriched .runOperationResponse c.reply c'.reply
  rest : c' = { c with
    clients := { c.clients with items := c'.clients.items }
    backups := { c.backups with items := c'.backups.items }
    storages := { c.storages with items := c'.storages.items }
    reply := c'.reply }

variable {c c' : Coordinator}

variable (interceptors : List (Interceptor String))

theorem Enriched.connectedAgents (enriched : c.Enriched c') :
    Client.connectedAgents interceptors c' = Client.connectedAgents interceptors c := by
  rw [enriched.rest]
  have alike := enriched.clients.imp fun _ _ more =>
    congrArg (Except.map AgentRecord.ofMessage) (received_enriched more)
  simp only [Client.connectedAgents, Stream.drain_congr alike]

theorem Enriched.drain_backups (enriched : c.Enriched c') :
    Stream.drain "available backups" Client.backupEntry c'.backups =
      Stream.drain "available backups" Client.backupEntry c.backups := by
  rw [enriched.rest]
  exact Stream.drain_congr (enriched.backups.imp fun _ _ more =>
    congrArg (Except.map BackupEntry.ofMessage) (received_enriched more)) _

theorem Enriched.availableBackups (enriched : c.Enriched c') :
    Client.availableBackups interceptors c' = Client.availableBackups interceptors c := by
  simp only [Client.availableBackups, enriched.drain_backups]
  rw [enriched.rest]

theorem Enriched.remoteStorages (enriched : c.Enriched c') :
    Client.storages interceptors c' = Client.storages interceptors c := by
  rw [enriched.rest]
  have alike := enriched.storages.imp fun _ _ more =>
    congrArg (Except.map StorageRecord.ofMessage) (received_enriched more)
  simp only [Client.storages, Stream.drain_congr alike]

theorem Enriched.operate (enriched : c.Enriched c') (method : Contract.Method)
    (request : List UInt8) : Client.operate interceptors c' method request =
      Client.operate interceptors c method request := by
  have replied := received_enriched enriched.reply
  rw [enriched.rest]
  simp only [Client.operate, replied]

theorem Enriched.perform (enriched : c.Enriched c') (files : Files) (s : Settings)
    (command : Command) : command.perform files s c' = command.perform files s c := by
  have ready : c'.readiness = c.readiness := by rw [enriched.rest]
  cases command <;>
    simp only [Command.perform, ready, enriched.connectedAgents, enriched.availableBackups,
      enriched.remoteStorages, Client.runBackup, Client.runRestore, enriched.operate]

theorem Enriched.drain_seen (enriched : c.Enriched c') (p : Patience) :
    Stream.drain "available backups" Client.backupEntry (Stream.seen p c'.backups) =
      Stream.drain "available backups" Client.backupEntry (Stream.seen p c.backups) := by
  have script : c'.backups = { c.backups with items := c'.backups.items } := by
    rw [enriched.rest]
  have prompt : c'.backups.prompt = c.backups.prompt := by rw [script]
  unfold Stream.seen
  rw [prompt]
  split
  next => rw [script]
  next => exact enriched.drain_backups

theorem Enriched.fetchNames (enriched : c.Enriched c') (files : Files) (s : Settings)
    (timeout : Float) :
    Completion.fetchNames files s timeout c' = Completion.fetchNames files s timeout c := by
  have ready : c'.readiness = c.readiness := by rw [enriched.rest]
  have metadata : c'.metadata = c.metadata := by rw [enriched.rest]
  have asked (p : Patience) : (Stream.seen p c'.backups).prompt = (Stream.seen p c.backups).prompt ∧
      (Stream.seen p c'.backups).ending = (Stream.seen p c.backups).ending := by
    rw [enriched.rest]
    unfold Stream.seen
    split <;> exact ⟨rfl, rfl⟩
  simp only [Completion.fetchNames, Stream.within, ready, metadata, enriched.drain_seen,
    (asked _).1, (asked _).2]

theorem Enriched.dispatch (enriched : c.Enriched c') (files : Files) (s : Settings)
    (command : Command) : command.dispatch files s c' = command.dispatch files s c := by
  rw [Command.dispatch, enriched.perform, Command.dispatch]

theorem Enriched.start (enriched : c.Enriched c') (world : World) (args : List String) :
    Session.start world c' args = Session.start world c args := by
  simp only [Session.start, Session.execute, Session.runCommand, enriched.dispatch]

theorem Enriched.complete (enriched : c.Enriched c') (world : World)
    (globals : CommandLine.Globals) (incomplete : String) :
    Session.complete world c' globals incomplete = Session.complete world c globals incomplete := by
  simp only [Session.complete, Session.offered, enriched.fetchNames]

end Coordinator

namespace Contract

open Wire

/-- Strangers are skipped: wherever they stand, in the message or in one inside it, the message is
read as if they were not there. -/
structure SkipsStrangers (t : MessageType) : Prop where
  carried : ∀ (m : Msg t) bs, m.Carried bs → decode t bs = some m
  inserted : ∀ (m : Msg t) first last others bs, m.Fits →
    Message.give t.fields m = first ++ last → RawField.Spelt maxDepth others bs →
      (∀ f ∈ others, f.number ∉ t.fields.map Field.number) →
        decode t (RawField.listToBytes first ++ (bs ++ RawField.listToBytes last)) = some m

theorem skipsStrangers (t : MessageType) : SkipsStrangers t where
  carried _ _ carried := (decode_of_carried carried).1
  inserted _ _ _ _ _ fits split spelt unknown :=
    (decode_of_carried (Message.carried_insert fits split spelt unknown)).1

end Contract

/-- Fields that are not declared never disturb those that are, in no message and in no run. -/
theorem strangers_disturb_nothing :
    (∀ t, Contract.SkipsStrangers t) ∧
    ∀ c c' : Coordinator, c.Enriched c' →
      (∀ interceptors, Client.connectedAgents interceptors c' =
          Client.connectedAgents interceptors c ∧
        Client.availableBackups interceptors c' = Client.availableBackups interceptors c ∧
        Client.storages interceptors c' = Client.storages interceptors c) ∧
      (∀ files s command, Command.dispatch files s c' command =
        Command.dispatch files s c command) ∧
      ∀ world, (∀ args, Session.start world c' args = Session.start world c args) ∧
        ∀ globals incomplete, Session.complete world c' globals incomplete =
          Session.complete world c globals incomplete := by
  refine ⟨Contract.skipsStrangers, fun c c' enriched => ⟨fun channel => ?_,
    fun files s command => ?_, fun world => ⟨fun args => ?_, fun globals incomplete => ?_⟩⟩⟩
  · exact ⟨enriched.connectedAgents channel, enriched.availableBackups channel,
      enriched.remoteStorages channel⟩
  · exact enriched.dispatch files s command
  · exact enriched.start world args
  · exact enriched.complete world globals incomplete

namespace Contract

open Wire
open RawField (Spelt nested nestedBytes spelt_nested)

def finished : Msg .backupMetadata := (0, 5, 0, 0, 0, "x", "", ())

def finishedFile : Msg .metadataFile := ("a", some finished, ())

def richBackup : List UInt8 :=
  ([32] ++ ([135, 0] ++ [])) ++ (RawField.toBytes (.varint 2 5) ++
    (([66] ++ ([2] ++ ([104, 105] ++ []))) ++ (RawField.toBytes (.bytes 7 [120]) ++ [])))

def richFile : List UInt8 :=
  RawField.toBytes (.bytes 1 [97]) ++ (([123] ++ ([8, 1] ++ ([124] ++ []))) ++
    (RawField.toBytes (.bytes 2 richBackup) ++ (([165, 1] ++ ([1, 2, 3, 4] ++ [])) ++ [])))

theorem richBackup_mixed : Mixed (backupMetadataFields.map LeafField.number) Eq (maxDepth - 1)
    (Row.give backupMetadataFields finished) richBackup := by
  have long : Spells [135, 0] 7 := by decide
  have number : Spelt (maxDepth - 1) [.varint 4 7] ([32] ++ ([135, 0] ++ [])) :=
    .varint (by decide) long (by decide) .nil
  have text : Spelt (maxDepth - 1) [.bytes 8 [104, 105]] ([66] ++ ([2] ++ ([104, 105] ++ []))) :=
    .bytes (by decide) (by decide) (by decide) (by decide) .nil
  have x : "x".toUTF8.toList = [120] := by
    rw [toList_toUTF8]
    rfl
  have given : Row.give backupMetadataFields finished =
      [.varint 2 5, .bytes 7 "x".toUTF8.toList] := rfl
  rw [given, x]
  exact .strangers number (by decide) (.own rfl trivial (.strangers text (by decide)
    (.own rfl (by decide : 1 < 0x80000000) .done)))

theorem richFile_carries : finishedFile.Carried richFile := by
  have one : Spells [1] 1 := by decide
  have inner : Spelt 99 [.varint 1 1] ([8] ++ ([1] ++ [])) :=
    .varint (by decide) one (by decide) .nil
  have group : Spelt maxDepth [.group 15 [.varint 1 1]] ([123] ++ ([8, 1] ++ ([124] ++ []))) :=
    .group (by decide) inner (by decide) .nil
  have four : Spelt maxDepth [.fixed32 20 [1, 2, 3, 4]] ([165, 1] ++ ([1, 2, 3, 4] ++ [])) :=
    .fixed32 (by decide) rfl .nil
  have listed : ⟨"metadata", 2, .message "BackupMetadata" backupMetadataFields⟩ ∈
      MessageType.metadataFile.fields := by decide
  have a : "a".toUTF8.toList = [97] := by
    rw [toList_toUTF8]
    rfl
  have given : Message.give MessageType.metadataFile.fields finishedFile =
      [.bytes 1 "a".toUTF8.toList,
        .bytes 2 (RawField.listToBytes (Row.give backupMetadataFields finished))] := rfl
  rw [Message.Carried, given, a]
  exact .own .same (by decide : 1 < 0x80000000) (.strangers group (by decide)
    (.own (.inside listed rfl richBackup_mixed) (by decide : _ < 0x80000000)
      (.strangers four (by decide) .done)))

theorem richFile_disturbs_nothing :
    let plain : Coordinator := { backups := { items := [encode finishedFile] } }
    let rich : Coordinator := { backups := { items := [richFile] } }
    decode .error (nestedBytes 100) = some ("", ()) ∧
    decode .metadataFile richFile = some finishedFile ∧ plain.Enriched rich ∧
      ∀ files s, Command.listBackups.dispatch files s rich =
        Command.listBackups.dispatch files s plain := by
  intro plain rich
  obtain ⟨skips, runs⟩ := strangers_disturb_nothing
  have enriched : plain.Enriched rich :=
    ⟨.nil, .cons (.more richFile_carries) .nil, .nil, .same, rfl⟩
  refine ⟨?_, (skips .metadataFile).carried _ _ richFile_carries, enriched, fun files s => ?_⟩
  · have skipped := (skips .error).inserted ("", ()) [] [] (nested 100) (nestedBytes 100) nofun rfl
      (spelt_nested 100) (by decide)
    rwa [RawField.listToBytes, List.append_nil, List.nil_append] at skipped
  · exact (runs plain rich enriched).2.1 files s .listBackups

theorem decode_nested (t : MessageType) {n : Nat} (deep : maxDepth < n) :
    decode t (nestedBytes n) = none := by
  rw [decode, Message.decode, rawFields, nestedBytes, RawField.readFields_nested deep]
  rfl

/-- One group more is refused, and the message with it. -/
theorem deep_group_disturbs :
    Spelt 101 (nested 101) (nestedBytes 101) ∧
    (∀ f ∈ nested 101, f.number ∉ MessageType.error.fields.map Field.number) ∧
    decode .error (encode (t := .error) ("", ())) = some ("", ()) ∧
    decode .error (encode (t := .error) ("", ()) ++ nestedBytes 101) = none :=
  ⟨spelt_nested 101, by decide, by rfl, decode_nested .error (by decide)⟩

end Contract

end BackupConsole
