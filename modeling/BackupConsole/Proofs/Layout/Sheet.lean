import BackupConsole.Proofs.Layout.Dates
import BackupConsole.Proofs.Listing.Table

set_option autoImplicit false

namespace BackupConsole.Layout

open Text (Unbroken ofLines padRight unbroken_ofList unbroken_append unbroken_padRight)

inductive Sheet
  | nodes
  | verboseNodes
  | backups
  | storages
  deriving DecidableEq, Repr

namespace Sheet

abbrev Record : Sheet → Type
  | nodes => AgentRecord
  | verboseNodes => AgentRecord
  | backups => String × BackupRecord
  | storages => StorageRecord

def template : Sheet → Template
  | nodes => .connectedNodes
  | verboseNodes => .connectedNodesVerbose
  | backups => .availableBackups
  | storages => .availableStorages

def data : (sheet : Sheet) → List sheet.Record → Data
  | nodes, records => .agents records
  | verboseNodes, records => .agents records
  | backups, entries => .backups entries
  | storages, records => .storages records

def row : (sheet : Sheet) → sheet.Record → String × Subject
  | nodes, r => ("", agentSubject r)
  | verboseNodes, r => ("", agentSubject r)
  | backups, (name, r) => (name, backupSubject r)
  | storages, r => ("", storageSubject r)

def arrange : (sheet : Sheet) → List sheet.Record → List sheet.Record
  | nodes, records => records
  | verboseNodes, records => records
  | backups, entries => sortByLabel entries
  | storages, records => records

def rule : String := String.ofList (List.replicate 97 '-')

def headLines : Sheet → List String
  | nodes => [
    "          Node Name          |  Node Type   |          Replicaset          " ++
      "|      Cluster ID",
    "-----------------------------+--------------+------------------------------" ++
      "+----------------------"]
  | verboseNodes => []
  | backups => [
    "            Metadata file name           |  Type   |     Finished        | Description",
    "-----------------------------------------+---------+---------------------" ++
      "+------------------------"]
  | storages => ["Available Storages:", rule]

def yesNo (b : Bool) : String := if b then "yes" else "no"

def ownLines : (sheet : Sheet) → sheet.Record → List String
  | nodes, (r : AgentRecord) => [
    padRight 28 r.nodeName ++ " | " ++ padRight 12 r.nodeType ++ " | " ++
      padRight 28 r.replicasetName ++ " | " ++ r.clusterId]
  | verboseNodes, (r : AgentRecord) => [
    "Node Name       : " ++ r.nodeName,
    "  Node Type     : " ++ r.nodeType,
    "  Agent ID      : " ++ r.agentId,
    "  Agent Version : " ++ r.version,
    "  Replicaset    : " ++ r.replicasetName,
    "  Cluster ID    : " ++ r.clusterId,
    "  Last Seen     : " ++ seenText r.lastSeen]
  | backups, ((name, r) : String × BackupRecord) => [
    padRight 40 name ++ " | " ++ padRight 7 r.backupType ++ " | " ++
      padRight 19 (finishedText r) ++ " | " ++ r.description]
  | storages, (r : StorageRecord) => [
    "Name         : " ++ r.name,
    "  Type       : " ++ r.type,
    "  Valid      : " ++ yesNo r.valid,
    "  Can read   : " ++ yesNo r.canRead,
    "  Can write  : " ++ yesNo r.canWrite,
    rule]

def height : Sheet → Nat
  | nodes => 1
  | verboseNodes => 7
  | backups => 1
  | storages => 6

def lineCount : Sheet → Nat → Nat
  | nodes, n => 2 + n
  | verboseNodes, n => 7 * n
  | backups, n => 2 + n
  | storages, n => 2 + 6 * n

def texts : (sheet : Sheet) → sheet.Record → List String
  | nodes, (r : AgentRecord) => [r.nodeName, r.nodeType, r.replicasetName, r.clusterId]
  | verboseNodes, (r : AgentRecord) =>
    [r.nodeName, r.nodeType, r.agentId, r.version, r.replicasetName, r.clusterId]
  | backups, ((name, r) : String × BackupRecord) => [name, r.backupType, r.description]
  | storages, (r : StorageRecord) => [r.name, r.type]

def Plain (sheet : Sheet) (r : sheet.Record) : Prop := ∀ text ∈ sheet.texts r, Unbroken text

instance (sheet : Sheet) (r : sheet.Record) : Decidable (sheet.Plain r) :=
  inferInstanceAs (Decidable (∀ text ∈ sheet.texts r, Unbroken text))

def Dated : (sheet : Sheet) → sheet.Record → Prop
  | nodes, _ => True
  | verboseNodes, (r : AgentRecord) => Datable r.lastSeen
  | backups, ((_, r) : String × BackupRecord) => 0 < r.endTs → Datable r.endTs
  | storages, _ => True

def Arranged : (sheet : Sheet) → List sheet.Record → List sheet.Record → Prop
  | nodes, records, arranged => arranged = records
  | verboseNodes, records, arranged => arranged = records
  | backups, records, arranged => Stream.StablySorted (fun a b => decide (a < b))
      (fun entry : String × BackupRecord => Text.lower entry.1) records arranged
  | storages, records, arranged => arranged = records

variable {sheet : Sheet} {records : List sheet.Record} {r : sheet.Record}

theorem storageRule_eq : Template.storageRule = rule ++ "\n" := rfl

theorem ofLines_pair (first second : String) :
    ofLines [first, second] = first ++ "\n" ++ (second ++ "\n") := by
  simp [ofLines, String.join_cons]

-- Some of these texts stand in the heading in two parts, and a last part has the line feed in it.
theorem ofLines_headLines (sheet : Sheet) : ofLines sheet.headLines = sheet.template.heading := by
  have whole (title marks rest : String) :
      ofLines [title, marks ++ rest] = title ++ "\n" ++ marks ++ (rest ++ "\n") := by
    simp only [ofLines_pair, String.append_assoc]
  have parted (title more marks rest : String) : ofLines [title ++ more, marks ++ rest] =
      title ++ (more ++ "\n") ++ marks ++ (rest ++ "\n") := by
    simp only [ofLines_pair, String.append_assoc]
  cases sheet with
  | nodes => exact parted _ _ _ _
  | backups => exact whole _ _ _
  | storages => exact ofLines_pair _ _
  | verboseNodes => rfl

theorem unbroken_headLines (sheet : Sheet) : ∀ line ∈ sheet.headLines, Unbroken line := by
  cases sheet with
  | nodes =>
    refine List.forall_mem_cons.2 ⟨unbroken_append.2 ⟨?_, ?_⟩,
      List.forall_mem_singleton.2 (unbroken_append.2 ⟨?_, ?_⟩)⟩
    all_goals exact unbroken_ofList (by decide)
  | backups =>
    refine List.forall_mem_cons.2 ⟨?_, List.forall_mem_singleton.2 (unbroken_append.2 ⟨?_, ?_⟩)⟩
    all_goals exact unbroken_ofList (by decide)
  | storages =>
    refine List.forall_mem_cons.2 ⟨?_, List.forall_mem_singleton.2 ?_⟩
    all_goals exact unbroken_ofList (by simp)
  | verboseNodes => nofun

theorem length_ownLines (r : sheet.Record) : (sheet.ownLines r).length = sheet.height := by
  cases sheet <;> rfl

theorem arranged_arrange (records : List sheet.Record) :
    sheet.Arranged records (sheet.arrange records) := by
  cases sheet with
  | backups => exact sortByLabel_sorts records
  | nodes | verboseNodes | storages => rfl

theorem timestampOf_of_datable {seconds : Int} (datable : Datable seconds) :
    timestampOf (.int seconds) = .ok (seenText seconds) := by
  unfold timestampOf seenText
  by_cases zero : seconds = 0
  · simp [zero, Datum.truthy]
  · have within : inRange seconds = true := by
      unfold Datable at datable
      simp only [inRange, decide_eq_true_eq]
      omega
    simp [zero, Datum.truthy, secondsText, within]

theorem rowText_node (r : AgentRecord) : rowText .connectedNodes "" (agentSubject r) =
    .ok (ofLines (nodes.ownLines r)) := by
  have whole : rowText .connectedNodes "" (agentSubject r) = .ok (String.join [
      padRight 28 r.nodeName, " | ", padRight 12 r.nodeType, " | ", padRight 28 r.replicasetName,
      " | ", r.clusterId, "\n"]) := rfl
  rw [whole]
  simp [ofLines, ownLines, String.join_cons, String.append_assoc]

theorem rowText_verboseNode {r : AgentRecord} (dated : Datable r.lastSeen) :
    rowText .connectedNodesVerbose "" (agentSubject r) =
      .ok (ofLines (verboseNodes.ownLines r)) := by
  have seen : pieceText .connectedNodesVerbose "" (agentSubject r) (.time "last_seen") =
      .ok (seenText r.lastSeen) := timestampOf_of_datable dated
  have pieces : List.Forall₂
      (fun piece text => pieceText .connectedNodesVerbose "" (agentSubject r) piece = .ok text)
      Template.connectedNodesVerbose.row
      ["Node Name       : ", r.nodeName, "\n  Node Type     : ", r.nodeType,
        "\n  Agent ID      : ", r.agentId, "\n  Agent Version : ", r.version,
        "\n  Replicaset    : ", r.replicasetName, "\n  Cluster ID    : ", r.clusterId,
        "\n  Last Seen     : ", seenText r.lastSeen, "\n"] :=
    .cons rfl <| .cons rfl <| .cons rfl <| .cons rfl <| .cons rfl <| .cons rfl <| .cons rfl <|
      .cons rfl <| .cons rfl <| .cons rfl <| .cons rfl <| .cons rfl <| .cons rfl <| .cons seen <|
      .cons rfl .nil
  rw [rowText, mapM_eq_ok_iff.2 pieces]
  refine congrArg Except.ok (String.toList_injective ?_)
  simp [ofLines, ownLines]

theorem rowText_storage (r : StorageRecord) : rowText .availableStorages "" (storageSubject r) =
    .ok (ofLines (storages.ownLines r)) := by
  have pieces : List.Forall₂
      (fun piece text => pieceText .availableStorages "" (storageSubject r) piece = .ok text)
      Template.availableStorages.row
      ["Name         : ", r.name, "\n  Type       : ", r.type,
        "\n  Valid      : ", yesNo r.valid, "\n  Can read   : ", yesNo r.canRead,
        "\n  Can write  : ", yesNo r.canWrite, "\n" ++ Template.storageRule] :=
    .cons rfl <| .cons rfl <| .cons rfl <| .cons rfl <| .cons rfl <| .cons rfl <| .cons rfl <|
      .cons rfl <| .cons rfl <| .cons rfl <| .cons rfl .nil
  rw [rowText, mapM_eq_ok_iff.2 pieces, storageRule_eq]
  refine congrArg Except.ok (String.toList_injective ?_)
  simp [ofLines, ownLines]

theorem rowText_own (dated : sheet.Dated r) :
    rowText sheet.template (sheet.row r).1 (sheet.row r).2 = .ok (ofLines (sheet.ownLines r)) := by
  cases sheet with
  | nodes => exact rowText_node r
  | verboseNodes => exact rowText_verboseNode dated
  | storages => exact rowText_storage r
  | backups =>
    obtain ⟨name, r⟩ := r
    refine (rowText_backup dated name).trans (congrArg Except.ok ?_)
    simp [ofLines, ownLines, backupRow, String.join_cons, String.append_assoc]

theorem render_eq_rowsText (records : List sheet.Record) :
    render sheet.template (sheet.data records) =
      rowsText sheet.template ((sheet.arrange records).map sheet.row) := by
  cases sheet with
  | nodes | verboseNodes | storages =>
    change rowsText _ ((records.map _).map _) = _
    rw [List.map_map]
    rfl
  | backups =>
    change rowsText _ (sortByLabel (records.map fun entry => (entry.1, backupSubject entry.2))) = _
    rw [sortByLabel_map]
    rfl

theorem mem_arrange : r ∈ sheet.arrange records ↔ r ∈ records := by
  cases sheet with
  | backups => exact mem_sortByLabel
  | nodes | verboseNodes | storages => rfl

theorem render_lines (dated : ∀ r ∈ records, sheet.Dated r) :
    render sheet.template (sheet.data records) =
      .ok (ofLines (sheet.headLines ++ (sheet.arrange records).flatMap sheet.ownLines)) := by
  have rows : ((sheet.arrange records).map sheet.row).mapM
      (fun row => rowText sheet.template row.1 row.2) =
      .ok ((sheet.arrange records).map fun r => ofLines (sheet.ownLines r)) := by
    rw [mapM_eq_ok_iff, List.forall₂_map_left_iff, List.forall₂_map_right_iff, List.forall₂_same]
    exact fun r member => rowText_own (dated r (mem_arrange.1 member))
  rw [render_eq_rowsText, rowsText, rows, Text.ofLines_append, Text.ofLines_flatMap,
    ofLines_headLines]
  rfl

theorem unbroken_yesNo (b : Bool) : Unbroken (yesNo b) := by
  cases b <;> decide

theorem unbroken_finishedText (r : BackupRecord) : Unbroken (finishedText r) := by
  unfold finishedText
  split
  next => exact unbroken_momentText (fits_momentOfSeconds _)
  next => decide

theorem unbroken_ownLines (plain : sheet.Plain r) : ∀ line ∈ sheet.ownLines r, Unbroken line := by
  have bar : Unbroken " | " := by decide
  have rule : Unbroken rule := unbroken_ofList (by simp)
  cases sheet with
  | nodes =>
    simp only [Plain, texts, List.forall_mem_cons] at plain
    obtain ⟨name, type, replicaset, cluster, _⟩ := plain
    simp [ownLines, unbroken_append, unbroken_padRight, bar, name, type, replicaset, cluster]
  | verboseNodes =>
    simp only [Plain, texts, List.forall_mem_cons] at plain
    obtain ⟨name, type, agent, version, replicaset, cluster, _⟩ := plain
    simp only [ownLines, List.forall_mem_cons, unbroken_append, name, type, agent, version,
      replicaset, cluster, unbroken_seenText, and_true]
    and_intros
    all_goals first | exact unbroken_ofList (by decide) | nofun
  | backups =>
    simp only [Plain, texts, List.forall_mem_cons] at plain
    obtain ⟨name, type, description, _⟩ := plain
    simp [ownLines, unbroken_append, unbroken_padRight, bar, name, type, description,
      unbroken_finishedText]
  | storages =>
    simp only [Plain, texts, List.forall_mem_cons] at plain
    obtain ⟨name, type, _⟩ := plain
    simp only [ownLines, List.forall_mem_cons, unbroken_append, name, type, unbroken_yesNo, rule,
      and_true, true_and]
    and_intros
    all_goals first | exact unbroken_ofList (by decide) | nofun

theorem yesNo_injective {b c : Bool} (same : yesNo b = yesNo c) : b = c := by
  revert b c
  decide

theorem ownLines_injective {r r' : sheet.Record} (long : sheet = .verboseNodes ∨ sheet = .storages)
    (same : sheet.ownLines r = sheet.ownLines r') : r = r' := by
  have unlabelled {label a b : String} (same : label ++ a = label ++ b) : a = b := by
    have chars := congrArg String.toList same
    rw [String.toList_append, String.toList_append] at chars
    exact String.toList_injective (List.append_cancel_left chars)
  rcases long with rfl | rfl
  · obtain ⟨_, _, _, _, _, _, _⟩ := r
    obtain ⟨_, _, _, _, _, _, _⟩ := r'
    simp only [ownLines, List.cons.injEq, and_true] at same
    obtain ⟨name, type, agent, version, replicaset, cluster, seen⟩ := same
    cases unlabelled name
    cases unlabelled type
    cases unlabelled agent
    cases unlabelled version
    cases unlabelled replicaset
    cases unlabelled cluster
    cases seenText_injective (unlabelled seen)
    rfl
  · obtain ⟨_, _, _, _, _⟩ := r
    obtain ⟨_, _, _, _, _⟩ := r'
    simp only [ownLines, List.cons.injEq, and_true] at same
    obtain ⟨name, type, valid, reads, writes⟩ := same
    cases unlabelled name
    cases unlabelled type
    cases yesNo_injective (unlabelled valid)
    cases yesNo_injective (unlabelled reads)
    cases yesNo_injective (unlabelled writes)
    rfl

/-- What a listing of records is: whole lines, as many as the records ask for, and those of each
record one after the other in their order. -/
structure Listed (sheet : Sheet) (records : List sheet.Record) (lines : List String) : Prop where
  rendered : render sheet.template (sheet.data records) = .ok (ofLines lines)
  unbroken : ∀ line ∈ lines, Unbroken line
  count : lines.length = sheet.lineCount records.length
  height : ∀ r, (sheet.ownLines r).length = sheet.height
  blocks : ∃ arranged, sheet.Arranged records arranged ∧
    lines = sheet.headLines ++ arranged.flatMap sheet.ownLines

theorem length_lines (records : List sheet.Record) :
    (sheet.headLines ++ records.flatMap sheet.ownLines).length =
      sheet.lineCount records.length := by
  rw [List.length_append, Text.length_flatMap length_ownLines]
  cases sheet with
  | nodes | backups => exact congrArg (2 + ·) (Nat.one_mul _)
  | verboseNodes => exact Nat.zero_add _
  | storages => rfl

theorem length_arrange (records : List sheet.Record) :
    (sheet.arrange records).length = records.length := by
  cases sheet with
  | backups => exact (sortByLabel_sorts records).perm.length_eq
  | nodes | verboseNodes | storages => rfl

theorem listed (sound : ∀ r ∈ records, sheet.Plain r ∧ sheet.Dated r) :
    sheet.Listed records (sheet.headLines ++ (sheet.arrange records).flatMap sheet.ownLines) where
  rendered := render_lines fun r member => (sound r member).2
  unbroken line member := by
    rcases List.mem_append.1 member with head | own
    · exact unbroken_headLines sheet line head
    · obtain ⟨r, arranged, own⟩ := List.mem_flatMap.1 own
      exact unbroken_ownLines (sound r (mem_arrange.1 arranged)).1 line own
  count := by rw [length_lines, length_arrange]
  height := length_ownLines
  blocks := ⟨_, arranged_arrange records, rfl⟩

theorem records_of_text (long : sheet = .verboseNodes ∨ sheet = .storages)
    {records' : List sheet.Record} (sound : ∀ r ∈ records, sheet.Plain r ∧ sheet.Dated r)
    (sound' : ∀ r ∈ records', sheet.Plain r ∧ sheet.Dated r)
    (same : render sheet.template (sheet.data records) =
      render sheet.template (sheet.data records')) : records = records' := by
  have lines := listed sound
  have lines' := listed sound'
  rw [lines.rendered, lines'.rendered, Except.ok.injEq] at same
  have blocks := List.append_cancel_left
    (Text.ofLines_injective lines.unbroken lines'.unbroken same)
  have size : ∃ size, sheet.height = size + 1 := by
    rcases long with rfl | rfl <;> exact ⟨_, rfl⟩
  obtain ⟨size, height⟩ := size
  have arranged : sheet.arrange records = sheet.arrange records' :=
    Text.flatMap_injective (fun r => (length_ownLines r).trans height)
      (fun _ _ _ _ => ownLines_injective long) blocks
  rcases long with rfl | rfl
  · exact arranged
  · exact arranged

/-- Listings lose nothing. Each record has its own lines under the heading, the long listings can be
read back, and a column never cuts what is shown in it. -/
theorem listings_lose_nothing :
    (∀ sheet records, (∀ r ∈ records, sheet.Plain r ∧ sheet.Dated r) →
      ∃! lines, Listed sheet records lines) ∧
    (∀ sheet : Sheet, sheet = .verboseNodes ∨ sheet = .storages →
      ∀ records records', (∀ r ∈ records, sheet.Plain r ∧ sheet.Dated r) →
        (∀ r ∈ records', sheet.Plain r ∧ sheet.Dated r) →
          render sheet.template (sheet.data records) =
            render sheet.template (sheet.data records') → records = records') ∧
    ∀ width value, (padRight width value).toList =
        value.toList ++ List.replicate (width - value.length) ' ' ∧
      (padRight width value).length = max width value.length := by
  refine ⟨fun sheet records sound => ⟨_, listed sound, fun lines also => ?_⟩,
    fun _ long _ _ sound sound' => records_of_text long sound sound',
    fun width value => ⟨Text.toList_padRight width value, Text.length_padRight width value⟩⟩
  have own := listed sound
  have same := also.rendered.symm.trans own.rendered
  exact Text.ofLines_injective also.unbroken own.unbroken (Except.ok.inj same)

def lookalikes : List AgentRecord := [
  { nodeName := "a | b", nodeType := "  Agent ID      : 7", clusterId := " ", lastSeen := 0 },
  { nodeName := "Node Name       : a", agentId := "7", lastSeen := 253402300799 }]

theorem listings_lose_nothing_lookalikes : ∃ lines,
    Listed .verboseNodes lookalikes lines ∧ lines.length = 14 ∧
      ∀ records : List AgentRecord, (∀ r ∈ records, verboseNodes.Plain r ∧ Datable r.lastSeen) →
        render .connectedNodesVerbose (.agents records) = .ok (ofLines lines) →
          records = lookalikes := by
  have sound : ∀ r ∈ lookalikes, verboseNodes.Plain r ∧ verboseNodes.Dated r := by
    refine List.forall_mem_cons.2 ⟨⟨by decide, .inl rfl⟩, List.forall_mem_singleton.2 ?_⟩
    exact ⟨by decide, .inr ⟨by decide, by decide⟩⟩
  obtain ⟨lists, reads, _⟩ := listings_lose_nothing
  obtain ⟨lines, listed, _⟩ := lists .verboseNodes lookalikes sound
  refine ⟨lines, listed, listed.count, fun records sound' rendered => ?_⟩
  exact reads .verboseNodes (.inl rfl) _ _ sound' sound (rendered.trans listed.rendered.symm)

end Sheet

end BackupConsole.Layout
