import BackupConsole.Proofs.Labelling
import BackupConsole.Record
import BackupConsole.Wire.Named
import Mathlib.Data.Option.Basic

set_option autoImplicit false

namespace BackupConsole

open Contract (Labelling Msg MessageType)
open Wire (Field Message)

theorem mapM_eq_some_of_map {α β : Type} {f : α → Option β} {as : List α} {bs : List β}
    (each : as.map f = bs.map some) : as.mapM f = some bs := by
  calc as.mapM f
    _ = (as.map f).mapM id := by rw [List.mapM_map]; rfl
    _ = bs.mapM some := by rw [each, List.mapM_map]; rfl
    _ = some (bs.map id) := List.mapM_pure
    _ = some bs := by rw [List.map_id]

def Contract.valueOf? {t : MessageType} (m : Msg t) (field : String) : Option Datum :=
  (Message.toEntries t.fields m).lookup field

open Contract (valueOf?)

theorem Wire.Message.mem_toEntries {fs : List Field} {m : Message fs} {name : String}
    {value : Datum} (listed : (name, value) ∈ Message.toEntries fs m) :
    ∃ f ∈ fs, f.name = name ∧ ∃ v, f.kind.toDatum v = value := by
  induction fs with
  | nil => cases listed
  | cons f fs ih =>
    rcases List.mem_cons.1 listed with first | later
    · cases first
      exact ⟨f, List.mem_cons_self, rfl, m.1, rfl⟩
    · obtain ⟨g, member, named⟩ := ih later
      exact ⟨g, List.mem_cons_of_mem f member, named⟩

def Datum.toGiven : Datum → Given
  | .null => .null
  | .bool b => .bool b
  | .int n => .int n
  | .real x => .real x
  | .text s => .text s
  | .list _ => .collection .list
  | .dict _ => .collection .dict

def GivenFields.ofEntries (entries : List (String × Datum)) : GivenFields :=
  entries.map fun (name, value) => (name, value.toGiven)

structure Origin where
  name : String
  field : String
  labelling : Option Labelling := none

namespace Origin

variable {o : Origin} {t : MessageType} {m n : Msg t}

def ofName (name : String) : Origin := ⟨name, name, none⟩

def shown (o : Origin) : Datum → Datum
  | .int n => match o.labelling with
    | some l => .text (l.label n)
    | none => .int n
  | value => value

def named? (o : Origin) (m : Msg t) : Option (String × Datum) :=
  (valueOf? m o.field).map fun value => (o.name, o.shown value)

def Suits (o : Origin) (fields : List Field) : Prop :=
  ∀ l ∈ o.labelling, ∀ f ∈ fields, f.name = o.field → f.kind = .leaf (.enum l.enumeration)

instance (o : Origin) (fields : List Field) : Decidable (o.Suits fields) :=
  inferInstanceAs (Decidable (∀ l ∈ o.labelling, ∀ f ∈ fields, f.name = o.field →
    f.kind = .leaf (.enum l.enumeration)))

theorem shown_of_plain (plain : o.labelling = none) (value : Datum) : o.shown value = value := by
  cases value <;> simp [shown, plain]

theorem shown_of_labelled {l : Labelling} (labelled : o.labelling = some l) (n : Int) :
    o.shown (.int n) = .text (l.label n) := by
  simp only [shown, labelled]

theorem valueOf?_labelled {l : Labelling} {value : Datum} (suits : o.Suits t.fields)
    (labelled : o.labelling = some l) (found : valueOf? m o.field = some value) :
    ∃ n, value = .int n := by
  obtain ⟨before, after, split, -⟩ := List.lookup_eq_some_iff.1 found
  have listed : (o.field, value) ∈ Message.toEntries t.fields m := by simp [split]
  obtain ⟨⟨name, number, kind⟩, member, named, v, rfl⟩ := Message.mem_toEntries listed
  -- The field holds numbers, whatever the message is.
  obtain rfl := suits l labelled _ member named
  exact ⟨_, rfl⟩

theorem shown_inj {v w : Datum} (suits : o.Suits t.fields) (first : valueOf? m o.field = some v)
    (second : valueOf? n o.field = some w) : o.shown v = o.shown w ↔ v = w := by
  cases labelled : o.labelling with
  | none => rw [shown_of_plain labelled, shown_of_plain labelled]
  | some l =>
    obtain ⟨a, rfl⟩ := valueOf?_labelled suits labelled first
    obtain ⟨b, rfl⟩ := valueOf?_labelled suits labelled second
    rw [shown_of_labelled labelled, shown_of_labelled labelled, Datum.text.injEq,
      Labelling.label_inj, Datum.int.injEq]

theorem named?_inj (suits : o.Suits t.fields) :
    o.named? m = o.named? n ↔ valueOf? m o.field = valueOf? n o.field := by
  cases first : valueOf? m o.field with
  | none =>
    cases second : valueOf? n o.field <;> simp [named?, first, second]
  | some v =>
    cases second : valueOf? n o.field with
    | none => simp [named?, first, second]
    | some w => simp [named?, first, second, shown_inj suits first second]

end Origin

/-- How records are made of the messages of one type: where their fields are from, the record of a
message, the record of named values, and the values of a record by their names. -/
structure Conversion (t : MessageType) (R : Type) where
  origins : List Origin
  ofMessage : Msg t → R
  ofFields : GivenFields → Except (List Fault) R
  toEntries : R → List (String × Datum)

namespace Conversion

variable {t : MessageType} {R : Type} {c : Conversion t R}

def make (c : Conversion t R) (m : Msg t) : Option (Except (List Fault) R) :=
  (c.origins.mapM fun o : Origin => o.named? m).map fun entries =>
    c.ofFields (.ofEntries entries)

/-- Every message makes a record, which has what its origins say and nothing else. Messages make
the same record only if they agree in all of that, numbers with labels being compared as numbers. -/
structure Faithful (c : Conversion t R) : Prop where
  made : ∀ m, c.make m = some (.ok (c.ofMessage m))
  told : ∀ m, (c.toEntries (c.ofMessage m)).map some = c.origins.map fun o => o.named? m
  apart : ∀ m n, c.ofMessage m = c.ofMessage n ↔
    ∀ o ∈ c.origins, valueOf? m o.field = valueOf? n o.field

def ReadsBack (c : Conversion t R) : Prop :=
  ∀ r, c.ofFields (.ofEntries (c.toEntries r)) = .ok r

theorem ReadsBack.toEntries_inj (readsBack : c.ReadsBack) {r q : R} :
    c.toEntries r = c.toEntries q ↔ r = q := by
  refine ⟨fun same => ?_, congrArg c.toEntries⟩
  have again := readsBack r
  rw [same, readsBack q] at again
  exact (Except.ok.inj again).symm

theorem faithful (readsBack : c.ReadsBack)
    (told : ∀ m, (c.toEntries (c.ofMessage m)).map some = c.origins.map fun o => o.named? m)
    (suits : ∀ o ∈ c.origins, o.Suits t.fields) : c.Faithful where
  made m := by
    have taken : c.origins.mapM (fun o : Origin => o.named? m) =
        some (c.toEntries (c.ofMessage m)) := mapM_eq_some_of_map (told m).symm
    rw [make, taken, Option.map_some, readsBack]
  told := told
  apart m n := by
    calc c.ofMessage m = c.ofMessage n
      _ ↔ (c.toEntries (c.ofMessage m)).map some = (c.toEntries (c.ofMessage n)).map some := by
        rw [(List.map_injective_iff.2 (Option.some_injective _)).eq_iff, readsBack.toEntries_inj]
      _ ↔ ∀ o ∈ c.origins, o.named? m = o.named? n := by
        rw [told, told, List.map_inj_left]
      _ ↔ ∀ o ∈ c.origins, valueOf? m o.field = valueOf? n o.field :=
        forall₂_congr fun o listed => Origin.named?_inj (suits o listed)

def agents : Conversion .client AgentRecord where
  origins := [.ofName "node_name", .ofName "node_type", .ofName "replicaset_name",
    .ofName "cluster_id", { name := "agent_id", field := "id" }, .ofName "version",
    .ofName "last_seen"]
  ofMessage := AgentRecord.ofMessage
  ofFields := AgentRecord.ofFields
  toEntries := AgentRecord.toEntries

def backups : Conversion .backupMetadata BackupRecord where
  origins := [.ofName "description",
    { Origin.ofName "backup_type" with labelling := some Contract.backupTypes },
    { Origin.ofName "compression_type" with labelling := some Contract.compressionTypes },
    .ofName "storage_name", .ofName "start_ts", .ofName "end_ts"]
  ofMessage := BackupRecord.ofMessage
  ofFields := BackupRecord.ofFields
  toEntries := BackupRecord.toEntries

def storages : Conversion .storageInfo StorageRecord where
  origins := ["name", "type", "valid", "can_read", "can_write"].map .ofName
  ofMessage := StorageRecord.ofMessage
  ofFields := StorageRecord.ofFields
  toEntries := StorageRecord.toEntries

-- Records and messages are rows of values with known names, so what is read back and what is told
-- are computed.
theorem agents_faithful : agents.Faithful :=
  faithful (fun _ => rfl) (fun _ => rfl) (by decide)

theorem backups_faithful : backups.Faithful :=
  faithful (fun _ => rfl) (fun _ => rfl) (by decide)

theorem storages_faithful : storages.Faithful :=
  faithful (fun _ => rfl) (fun _ => rfl) (by decide)

end Conversion

/-- What the wire can carry is told by records as it is. No two numbers have one label, and a backup
is finished exactly if its message has a time after the epoch for its end. -/
theorem records_faithful :
    Conversion.agents.Faithful ∧ Conversion.backups.Faithful ∧ Conversion.storages.Faithful ∧
    (∀ a b, Contract.backupTypeLabel a = Contract.backupTypeLabel b ↔ a = b) ∧
    (∀ a b, Contract.compressionTypeLabel a = Contract.compressionTypeLabel b ↔ a = b) ∧
    ∀ m : Msg .backupMetadata, ∃ ended, valueOf? m "end_ts" = some (.int ended) ∧
      ((BackupRecord.ofMessage m).completed ↔ 0 < ended) :=
  ⟨Conversion.agents_faithful, Conversion.backups_faithful, Conversion.storages_faithful,
    fun _ _ => Contract.backupTypeLabel_inj, fun _ _ => Contract.compressionTypeLabel_inj,
    fun _ => ⟨_, rfl, decide_eq_true_iff⟩⟩

end BackupConsole
