import BackupConsole.Request
import BackupConsole.Proofs.Settings.Defaults
import BackupConsole.Proofs.Wire.Distinct

set_option autoImplicit false

namespace BackupConsole

open Contract (decode encode Msg)
open Wire (Message Kind Leaf)

theorem backupTypeOf?_eq (name : String) : backupTypeOf? name =
    if name ∈ ["logical", "hot"] then some (if name = "hot" then 1 else 0) else none := by
  unfold backupTypeOf?
  split <;> simp_all

theorem compressionTypeOf?_eq (name : String) : compressionTypeOf? name =
    if name ∈ ["", "none", "gzip"] then some (if name = "gzip" then 1 else 0) else none := by
  unfold compressionTypeOf?
  split <;> simp_all

theorem BackupRequest.ofSettings_eq_ok_iff {s : Settings} {r : BackupRequest} :
    BackupRequest.ofSettings s = .ok r ↔
      backupTypeOf? s.backupType = some r.backupType ∧
      compressionTypeOf? s.compressionAlgorithm = some r.compressionType ∧
      s.encryptionAlgorithm = "" ∧ r.cypher = 0 ∧ r.description = s.description ∧
      r.storageName = s.storageName := by
  obtain ⟨backupType, compressionType, cypher, description, storageName⟩ := r
  unfold BackupRequest.ofSettings
  cases backupTypeOf? s.backupType with
  | none => simp
  | some b =>
    cases compressionTypeOf? s.compressionAlgorithm with
    | none => simp
    | some k =>
      by_cases plain : s.encryptionAlgorithm = "" <;> simp [plain]
      grind

theorem label?_of_backupTypeOf? {name : String} {n : Int32} (named : backupTypeOf? name = some n) :
    ∃ label, Contract.backupType.label? n.toInt = some label := by
  unfold backupTypeOf? at named
  split at named <;> cases named
  · exact ⟨"BACKUP_TYPE_LOGICAL", rfl⟩
  · exact ⟨"BACKUP_TYPE_HOTBACKUP", rfl⟩

def BackupRequest.Fits (r : BackupRequest) : Prop :=
  r.description.utf8ByteSize < 0x80000000 ∧ r.storageName.utf8ByteSize < 0x80000000

def RestoreRequest.Fits (r : RestoreRequest) : Prop :=
  r.metadataFile.utf8ByteSize < 0x80000000 ∧ r.storageName.utf8ByteSize < 0x80000000

theorem BackupRequest.fits_toMessage {r : BackupRequest} : r.toMessage.Fits ↔ r.Fits := by
  simp only [Message.Fits, Message.give, toMessage, List.forall_mem_append, Kind.give,
    Leaf.fits_give_iff, Leaf.Short, BackupRequest.Fits, true_and]
  simp

theorem RestoreRequest.fits_toMessage {r : RestoreRequest} : r.toMessage.Fits ↔ r.Fits := by
  simp only [Message.Fits, Message.give, toMessage, List.forall_mem_append, Kind.give,
    Leaf.fits_give_iff, Leaf.Short, RestoreRequest.Fits, true_and]
  simp

theorem BackupRequest.decode_toMessage {r : BackupRequest} {m : Msg .runBackupParams} :
    decode .runBackupParams (encode r.toMessage) = some m ↔
      m = r.toMessage ∧ r.Fits := by
  rw [Contract.decode_encode, fits_toMessage]

theorem RestoreRequest.decode_toMessage {r : RestoreRequest}
    {m : Msg .runRestoreParams} :
    decode .runRestoreParams (encode r.toMessage) = some m ↔
      m = r.toMessage ∧ r.Fits := by
  rw [Contract.decode_encode, fits_toMessage]

namespace BackupRequest

variable {s t : Settings} {r q : BackupRequest}

inductive Refused (s : Settings) (cause : Cause) : Prop
  | backupType (unnamed : s.backupType ∉ ["logical", "hot"])
      (category : cause.category = .validation) (value : cause.value = some s.backupType)
      (message : cause.message = "backup type " ++ Text.quote s.backupType ++ " is invalid")
  | compression (named : s.backupType ∈ ["logical", "hot"])
      (unnamed : s.compressionAlgorithm ∉ ["", "none", "gzip"])
      (category : cause.category = .validation)
      (value : cause.value = some s.compressionAlgorithm)
      (message : cause.message =
        "compression algorithm " ++ Text.quote s.compressionAlgorithm ++ " is invalid")
  | encryption (named : s.backupType ∈ ["logical", "hot"])
      (compressed : s.compressionAlgorithm ∈ ["", "none", "gzip"])
      (encrypted : s.encryptionAlgorithm ≠ "") (category : cause.category = .unsupported)
      (message : cause.message = "encryption is not implemented yet")

structure SameAsked (s t : Settings) : Prop where
  backupType : s.backupType = t.backupType
  compression : s.compressionAlgorithm = t.compressionAlgorithm ∨
    s.compressionAlgorithm ∈ ["", "none"] ∧ t.compressionAlgorithm ∈ ["", "none"]
  description : s.description = t.description
  storageName : s.storageName = t.storageName

def asked (s : Settings) : BackupRequest where
  backupType := if s.backupType = "hot" then 1 else 0
  compressionType := if s.compressionAlgorithm = "gzip" then 1 else 0
  cypher := 0
  description := s.description
  storageName := s.storageName

theorem ofSettings_eq_ok_iff_asked : ofSettings s = .ok r ↔ s.backupType ∈ ["logical", "hot"] ∧
    s.compressionAlgorithm ∈ ["", "none", "gzip"] ∧ s.encryptionAlgorithm = "" ∧ r = asked s := by
  rw [ofSettings_eq_ok_iff, backupTypeOf?_eq, compressionTypeOf?_eq, Option.ite_none_right_eq_some,
    Option.ite_none_right_eq_some]
  constructor
  · rintro ⟨⟨named, backupType⟩, ⟨compressed, compressionType⟩, plain, cypher, description, storage⟩
    refine ⟨named, compressed, plain, ?_⟩
    cases r
    cases backupType
    cases compressionType
    cases cypher
    cases description
    cases storage
    rfl
  · rintro ⟨named, compressed, plain, rfl⟩
    exact ⟨⟨named, rfl⟩, ⟨compressed, rfl⟩, plain, rfl, rfl, rfl⟩

theorem refused_of_ofSettings {cause : Cause} (unmade : ofSettings s = .error cause) :
    Refused s cause := by
  unfold ofSettings at unmade
  rw [backupTypeOf?_eq, compressionTypeOf?_eq] at unmade
  by_cases named : s.backupType ∈ ["logical", "hot"]
  · rw [if_pos named] at unmade
    by_cases compressed : s.compressionAlgorithm ∈ ["", "none", "gzip"]
    · rw [if_pos compressed] at unmade
      by_cases plain : s.encryptionAlgorithm = ""
      · simp [plain] at unmade
      · simp only [plain, if_false] at unmade
        cases unmade
        exact .encryption named compressed plain rfl rfl
    · rw [if_neg compressed] at unmade
      cases unmade
      exact .compression named compressed rfl rfl rfl
  · rw [if_neg named] at unmade
    cases unmade
    exact .backupType named rfl rfl rfl

theorem eq_iff_sameAsked (made : ofSettings s = .ok r) (also : ofSettings t = .ok q) :
    r = q ↔ SameAsked s t := by
  obtain ⟨named, compressed, -, rfl⟩ := ofSettings_eq_ok_iff_asked.1 made
  obtain ⟨alsoNamed, alsoCompressed, -, rfl⟩ := ofSettings_eq_ok_iff_asked.1 also
  have types : ((if s.backupType = "hot" then 1 else 0 : Int32) =
      if t.backupType = "hot" then 1 else 0) ↔ s.backupType = t.backupType := by
    simp only [List.mem_cons, List.not_mem_nil, or_false] at named alsoNamed
    rcases named with h | h <;> rcases alsoNamed with h' | h' <;> simp [h, h']
  have compressions : ((if s.compressionAlgorithm = "gzip" then 1 else 0 : Int32) =
      if t.compressionAlgorithm = "gzip" then 1 else 0) ↔
      s.compressionAlgorithm = t.compressionAlgorithm ∨
        s.compressionAlgorithm ∈ ["", "none"] ∧ t.compressionAlgorithm ∈ ["", "none"] := by
    simp only [List.mem_cons, List.not_mem_nil, or_false] at compressed alsoCompressed
    rcases compressed with h | h | h <;> rcases alsoCompressed with h' | h' | h' <;>
      simp [h, h']
  rw [asked, asked, mk.injEq, types, compressions]
  constructor
  · rintro ⟨backupType, compression, -, description, storageName⟩
    exact ⟨backupType, compression, description, storageName⟩
  · rintro ⟨backupType, compression, description, storageName⟩
    exact ⟨backupType, compression, rfl, description, storageName⟩

theorem toMessage_inj : r.toMessage = q.toMessage ↔ r = q := by
  cases r
  cases q
  simp [toMessage]

end BackupRequest

theorem RestoreRequest.toMessage_inj {r q : RestoreRequest} :
    r.toMessage = q.toMessage ↔ r = q := by
  cases r
  cases q
  simp [toMessage]

/-- The requests of settings, from the options they are made of to what is read from their bytes. -/
structure Settings.RequestsExactly (s : Settings) : Prop where
  made_iff : (∃ r, BackupRequest.ofSettings s = .ok r) ↔ s.backupType ∈ ["logical", "hot"] ∧
    s.compressionAlgorithm ∈ ["", "none", "gzip"] ∧ s.encryptionAlgorithm = ""
  refused : ∀ cause, BackupRequest.ofSettings s = .error cause → BackupRequest.Refused s cause
  -- Only texts that no message has room for are in the way of reading.
  backup_read : ∀ r m, BackupRequest.ofSettings s = .ok r →
    (decode .runBackupParams (encode r.toMessage) = some m ↔
      m = (if s.backupType = "hot" then 1 else 0,
        if s.compressionAlgorithm = "gzip" then 1 else 0, 0, s.description, s.storageName, ()) ∧
      s.description.utf8ByteSize < 0x80000000 ∧ s.storageName.utf8ByteSize < 0x80000000)
  backups_apart : ∀ t r q, BackupRequest.ofSettings s = .ok r → BackupRequest.ofSettings t = .ok q →
    (encode r.toMessage).length < 0x10000000000000000 →
    (encode r.toMessage = encode q.toMessage ↔ BackupRequest.SameAsked s t)
  restore_read : ∀ m,
    decode .runRestoreParams (encode (RestoreRequest.ofSettings s).toMessage) = some m ↔
      m = (s.restoreMetadataFile, s.skipUsersAndRoles, s.storageName, ()) ∧
      s.restoreMetadataFile.utf8ByteSize < 0x80000000 ∧ s.storageName.utf8ByteSize < 0x80000000
  restores_apart : ∀ t : Settings,
    (encode (RestoreRequest.ofSettings s).toMessage).length < 0x10000000000000000 →
    (encode (RestoreRequest.ofSettings s).toMessage =
        encode (RestoreRequest.ofSettings t).toMessage ↔
      s.restoreMetadataFile = t.restoreMetadataFile ∧
      s.skipUsersAndRoles = t.skipUsersAndRoles ∧ s.storageName = t.storageName)

theorem requests_exact (s : Settings) : s.RequestsExactly where
  made_iff := by
    simp only [BackupRequest.ofSettings_eq_ok_iff_asked, exists_and_left, exists_eq, and_true]
  refused _ unmade := BackupRequest.refused_of_ofSettings unmade
  backup_read r m made := by
    obtain ⟨-, -, -, rfl⟩ := BackupRequest.ofSettings_eq_ok_iff_asked.1 made
    exact BackupRequest.decode_toMessage
  backups_apart t r q made also short := by
    rw [Contract.encode_inj short, BackupRequest.toMessage_inj,
      BackupRequest.eq_iff_sameAsked made also]
  restore_read _ := RestoreRequest.decode_toMessage
  restores_apart t short := by
    rw [Contract.encode_inj short, RestoreRequest.toMessage_inj, RestoreRequest.mk.injEq]
    rfl

theorem hot_backup_read : ∃ r,
    BackupRequest.ofSettings { Settings.defaults with backupType := "hot", storageName := "s3" } =
      .ok r ∧
    decode .runBackupParams (encode r.toMessage) = some (1, 0, 0, "", "s3", ()) := by
  refine ⟨⟨1, 0, 0, "", "s3"⟩, rfl, ?_⟩
  exact ((requests_exact
    { Settings.defaults with backupType := "hot", storageName := "s3" }).backup_read _ _ rfl).2
    ⟨rfl, by decide, by decide⟩

end BackupConsole
