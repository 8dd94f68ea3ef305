import BackupConsole.Proofs.Listing.Timestamps
import BackupConsole.Proofs.Stream.Arrangement

set_option autoImplicit false

namespace BackupConsole

open Contract (Msg)

theorem strictOrder_text : Stream.StrictOrder fun a b : String => decide (a < b) where
  irrefl := by simp
  trans a b c := by simpa using String.lt_trans

theorem total_text : Stream.Total fun a b : String => decide (a < b) := by
  intro a b first second
  simp only [decide_eq_false_iff_not, String.not_lt] at first second
  exact String.le_antisymm second first

namespace Layout

variable {α β : Type}

theorem sortByLabel_sorts (entries : List (String × α)) :
    Stream.StablySorted (fun a b => decide (a < b)) (fun entry => Text.lower entry.1) entries
      (sortByLabel entries) := by
  have sorts := Stream.stablySorted_mergeSort strictOrder_text total_text Prod.fst
    (entries.map fun entry => (Text.lower entry.1, entry))
  let label (entry : String × α) : String := Text.lower entry.1
  have labelled : ∀ keyed ∈ entries.map fun entry => (Text.lower entry.1, entry),
      keyed.1 = label keyed.2 := by
    intro keyed member
    obtain ⟨entry, _, rfl⟩ := List.mem_map.1 member
    rfl
  have values : (entries.map fun entry => (Text.lower entry.1, entry)).map (·.2) = entries := by
    simp [Function.comp_def]
  have sorted := sorts.values labelled
  rw [values] at sorted
  exact sorted

theorem sortByLabel_map (f : α → β) (entries : List (String × α)) :
    sortByLabel (entries.map fun entry => (entry.1, f entry.2)) =
      (sortByLabel entries).map fun entry => (entry.1, f entry.2) := by
  have mapped : Stream.StablySorted (fun a b => decide (a < b)) (fun entry => Text.lower entry.1)
      (entries.map fun entry => (entry.1, f entry.2))
      ((sortByLabel entries).map fun entry => (entry.1, f entry.2)) :=
    (sortByLabel_sorts entries).map fun _ => rfl
  exact (sortByLabel_sorts _).unique total_text mapped

def finishedText (r : BackupRecord) : String :=
  if 0 < r.endTs then momentText (Calendar.momentOfSeconds r.endTs) else "running"

def backupRow (name : String) (r : BackupRecord) : String :=
  Text.padRight 40 name ++ " | " ++ Text.padRight 7 r.backupType ++ " | " ++
    Text.padRight 19 (finishedText r) ++ " | " ++ r.description ++ "\n"

theorem rowText_backup {r : BackupRecord} (datable : 0 < r.endTs → Datable r.endTs)
    (name : String) :
    rowText .availableBackups name (backupSubject r) = .ok (backupRow name r) := by
  have ended : pieceText .availableBackups name (backupSubject r) (.ended 19) =
      .ok (Text.padRight 19 (finishedText r)) := by
    have completed : fieldOf .availableBackups (backupSubject r) "completed" =
        .ok (.bool (decide (0 < r.endTs))) := rfl
    have seconds : fieldOf .availableBackups (backupSubject r) "end_ts" = .ok (.int r.endTs) := rfl
    rw [pieceText, completed, seconds, finishedText]
    by_cases finished : 0 < r.endTs
    · have years : inRange r.endTs = true := by
        have dated := datable finished
        unfold Datable at dated
        simp only [inRange, decide_eq_true_eq]
        omega
      have some : r.endTs ≠ 0 := by omega
      simp [finished, Datum.truthy, timestampOf, some, secondsText, years, bind, Except.bind, pure,
        Except.pure]
    · simp [finished, Datum.truthy, bind, Except.bind, pure, Except.pure]
  have pieces : List.Forall₂
      (fun piece text => pieceText .availableBackups name (backupSubject r) piece = .ok text)
      Template.availableBackups.row
      [Text.padRight 40 name, " | ", Text.padRight 7 r.backupType, " | ",
        Text.padRight 19 (finishedText r), " | ", r.description, "\n"] :=
    .cons rfl <| .cons rfl <| .cons rfl <| .cons rfl <| .cons ended <| .cons rfl <| .cons rfl <|
      .cons rfl .nil
  rw [rowText, mapM_eq_ok_iff.2 pieces]
  simp [Except.map, String.join, backupRow, String.append_assoc]

end Layout

namespace Listing

def table : List (String × BackupRecord) → String
  | [] => "No backups found\n"
  | row :: rows => Layout.Template.availableBackups.heading ++
    String.join ((row :: rows).map fun (name, r) => Layout.backupRow name r)

structure Tabulated (messages : List (Msg .metadataFile)) (rows : List (String × BackupRecord)) :
    Prop where
  once : (rows.map (·.1)).Nodup
  latest : ∀ name r, (name, r) ∈ rows ↔
    ∃ m, Completion.LastSent messages name m ∧ r = Completion.recordSent m
  -- Names in the order in which they first came are what is sorted.
  ordered : Stream.StablySorted (fun a b => decide (a < b)) Text.lower
    (messages.map (·.1)).eraseDups (rows.map (·.1))

def Tabulates (files : Files) (s : Settings) (c : Coordinator)
    (messages : List (Msg .metadataFile)) : Prop :=
  ∃ rows, Tabulated messages rows ∧
    (Command.listBackups.dispatch files s c).outcome = .ok Command.exitOk ∧
    (Command.listBackups.dispatch files s c).output = table rows

variable {files : Files} {s : Settings} {c : Coordinator} {messages : List (Msg .metadataFile)}

theorem tabulated_of_lastWins {entries : List (String × BackupRecord)}
    (latest : Stream.LastWins ((messages.map BackupEntry.ofMessage).map fun e =>
      (e.filename, BackupRecord.ofMessage e.metadata)) entries) :
    Tabulated messages (Layout.sortByLabel entries) := by
  have sorts := Layout.sortByLabel_sorts entries
  have names : entries.map (·.1) = (messages.map (·.1)).eraseDups := by
    rw [latest.keys, List.map_map, List.map_map]
    rfl
  refine ⟨?_, fun name r => ?_, ?_⟩
  · rw [(sorts.perm.map (·.1)).nodup_iff, names]
    exact nodup_eraseDups _
  · rw [Layout.mem_sortByLabel, mem_of_lastWins latest]
  · rw [← names]
    exact sorts.map fun _ => rfl

theorem table_of_some {rows : List (String × BackupRecord)} (some : rows ≠ []) :
    table rows = Layout.Template.availableBackups.heading ++
      String.join (rows.map fun (name, r) => Layout.backupRow name r) := by
  cases rows with
  | nil => exact absurd rfl some
  | cons row rows => rfl

theorem shows_table {entries : List (String × BackupRecord)}
    (datable : ∀ entry ∈ entries, 0 < entry.2.endTs → Layout.Datable entry.2.endTs) :
    Shows s .backups entries (table (Layout.sortByLabel entries)) := by
  by_cases found : entries = []
  · subst found
    have empty : table (Layout.sortByLabel []) = "No backups found\n" := by
      simp [Layout.sortByLabel, table]
    rw [empty]
    exact .noBackups
  · have perm := (Layout.sortByLabel_sorts entries).perm
    have some : Layout.sortByLabel entries ≠ [] := by
      intro empty
      rw [empty] at perm
      exact found perm.nil_eq.symm
    rw [table_of_some some]
    refine .backups found ⟨_, ?_, rfl⟩
    change List.Forall₂ _ (Layout.sortByLabel (entries.map fun entry =>
      (entry.1, Layout.backupSubject entry.2))) _
    rw [Layout.sortByLabel_map, List.forall₂_map_left_iff, List.forall₂_map_right_iff,
      List.forall₂_same]
    intro entry member
    exact Layout.rowText_backup (datable entry (perm.mem_iff.1 member)) entry.1

theorem tabulates_of_dated (sent : backups.Sent c messages)
    (reached : Channel.Reached files s c.readiness) (dated : backups.Dated s messages) :
    Tabulates files s c messages := by
  obtain ⟨entries, arranged, listed⟩ := shown_of_read reached sent.reads
  cases arranged with
  | backups latest =>
    have datable : ∀ entry ∈ entries, 0 < entry.2.endTs → Layout.Datable entry.2.endTs := by
      intro ⟨name, r⟩ member
      obtain ⟨m, last, rfl⟩ := (mem_of_lastWins latest).1 member
      exact dated name m last
    obtain ⟨exit, output⟩ := listed _ (shows_table datable)
    exact ⟨_, tabulated_of_lastWins latest, exit, output⟩

theorem outcome_availableBackups (sent : backups.Sent c messages) (token : String) :
    ∃ mapping, (Client.availableBackups (credentialInterceptors token) c).outcome = .ok mapping ∧
      Stream.KeepsLast (fun m : Msg .metadataFile => m.1) Completion.recordSent messages
        mapping := by
  have sends : Completion.Sends c messages := ⟨sent.decoded, sent.ended, sent.closed⟩
  exact ⟨_, sends.outcome_availableBackups token, Stream.keepsLast_ofPairs _ _ messages⟩

/-- Of items with one key the last one is kept, whatever comes between them, and it takes the place
of the first one. A listing of backups is a table of what is kept of the messages of its stream. -/
theorem last_write_wins {α β κ ν : Type} [BEq κ] [EquivBEq κ] (key : β → κ) (value : β → ν)
    (operation : String) (convert : α → Except Failure β) (s : Script α) :
    (∀ items, ∃! mapping, Stream.KeepsLast key value items mapping) ∧
    (∀ mapping, (Stream.toMapping (· == ·) (fun _ => true) (fun b => pure (key b))
        (fun b => pure (value b)) operation convert s).outcome = .ok mapping ↔
      ∃ items, Stream.Converted convert s.items items ∧ s.ending = .complete ∧
        s.closeFault? = none ∧ Stream.KeepsLast key value items mapping) ∧
    ∀ c messages, backups.Sent c messages →
      (∀ token, ∃ mapping,
        (Client.availableBackups (credentialInterceptors token) c).outcome = .ok mapping ∧
          Stream.KeepsLast (fun m : Msg .metadataFile => m.1) Completion.recordSent messages
            mapping) ∧
      ∀ files settings, Channel.Reached files settings c.readiness →
        backups.Dated settings messages → Tabulates files settings c messages := by
  refine ⟨Stream.existsUnique_keepsLast key value,
    fun mapping => Stream.outcome_toMapping_eq_ok_iff, fun c messages sent => ⟨?_, ?_⟩⟩
  · exact outcome_availableBackups sent
  · intro files settings reached dated
    exact tabulates_of_dated sent reached dated

theorem last_write_wins_sent_twice :
    let c : Coordinator := { backups := { items := [
      [10, 1, 98, 18, 5, 58, 3, 111, 108, 100], [10, 1, 66],
      [10, 1, 98, 18, 5, 58, 3, 110, 101, 119]] } }
    let messages : List (Msg .metadataFile) := [("b", some (0, 0, 0, 0, 0, "old", "", ()), ()),
      ("B", none, ()), ("b", some (0, 0, 0, 0, 0, "new", "", ()), ())]
    backups.Sent c messages ∧ Channel.Reached (.ofHome "/home") Settings.defaults c.readiness ∧
      backups.Dated Settings.defaults messages ∧
      ∃ rows, rows.map (·.1) = ["b", "B"] ∧
        (Command.listBackups.dispatch (.ofHome "/home") Settings.defaults c).output =
          table rows := by
  intro c messages
  have sent : backups.Sent c messages := ⟨.cons rfl (.cons rfl (.cons rfl .nil)), rfl, rfl⟩
  have reached : Channel.Reached (.ofHome "/home") Settings.defaults c.readiness :=
    ⟨⟨_, rfl⟩, by decide, rfl⟩
  have dated : backups.Dated Settings.defaults messages := by
    have running : ∀ m ∈ messages, ¬ 0 < (Completion.recordSent m).endTs := by decide
    rintro f m ⟨before, after, place, _⟩ ended
    exact absurd ended (running m (place ▸ List.mem_append_right before List.mem_cons_self))
  obtain ⟨_, _, listed⟩ := last_write_wins (fun n : Nat => n) (fun n => n) "backups"
    (fun n : Nat => .ok n) { items := [] }
  obtain ⟨rows, tabulated, _, output⟩ := (listed c messages sent).2 _ _ reached dated
  have names : (messages.map (·.1)).eraseDups = ["b", "B"] := by decide
  have sorted : Stream.StablySorted (fun a b => decide (a < b)) Text.lower ["b", "B"] ["b", "B"] :=
    ⟨.refl _, by decide, fun _ => rfl⟩
  refine ⟨sent, reached, dated, rows, ?_, output⟩
  exact tabulated.ordered.unique total_text (names ▸ sorted)

def distantBackup : Msg .metadataFile := ("a", some (0, 253402300800, 0, 0, 0, "", "", ()), ())

def distantBackups : Coordinator where
  backups := { items := [[10, 1, 97, 18, 7, 16, 128, 131, 209, 255, 175, 7]] }

theorem distant_backup_not_tabulated : backups.Sent distantBackups [distantBackup] ∧
    Channel.Reached (.ofHome "/home") Settings.defaults distantBackups.readiness ∧
    ¬ Tabulates (.ofHome "/home") Settings.defaults distantBackups [distantBackup] := by
  have sent : backups.Sent distantBackups [distantBackup] := ⟨.cons rfl .nil, rfl, rfl⟩
  have reached : Channel.Reached (.ofHome "/home") Settings.defaults distantBackups.readiness :=
    ⟨⟨_, rfl⟩, by decide, rfl⟩
  have undated : ¬ backups.Dated Settings.defaults [distantBackup] := by
    intro dated
    have datable := dated "a" distantBackup ⟨[], [], rfl, rfl, nofun⟩ (by decide)
    revert datable
    unfold Layout.Datable
    decide
  refine ⟨sent, reached, ?_⟩
  rintro ⟨rows, _, exit, _⟩
  have broken := (dispatch_of_undated sent reached undated).1
  cases exit.symm.trans broken

end Listing

end BackupConsole
