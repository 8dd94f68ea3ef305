import BackupConsole.Proofs.Calendar.Order
import BackupConsole.Proofs.Layout.Sheet

set_option autoImplicit false

namespace BackupConsole.Layout

open Contract (Msg)
open Text (Unbroken ofLines padRight length_padRight unbroken_append unbroken_padRight)

def barred (cells : List String) : String := "|".intercalate cells

def bars : List String → List Nat
  | cell :: next :: rest => cell.length :: (bars (next :: rest)).map (cell.length + 1 + ·)
  | _ => []

theorem getElem?_barred {cells : List String} {column : Nat} (listed : column ∈ bars cells) :
    (barred cells).toList[column]? = some '|' := by
  induction cells generalizing column with
  | nil => cases listed
  | cons cell rest ih =>
    cases rest with
    | nil => cases listed
    | cons next rest =>
      have whole : (barred (cell :: next :: rest)).toList =
          cell.toList ++ '|' :: (barred (next :: rest)).toList := by
        simp [barred]
      rw [whole]
      rcases List.mem_cons.1 listed with rfl | later
      · rw [← String.length_toList, List.getElem?_append_right (Nat.le_refl _), Nat.sub_self]
        rfl
      · obtain ⟨place, inside, rfl⟩ := List.mem_map.1 later
        rw [List.getElem?_append_right (by simp only [String.length_toList]; omega),
          String.length_toList, Nat.add_assoc, Nat.add_sub_cancel_left, Nat.add_comm,
          List.getElem?_cons_succ]
        exact ih inside

/-- Cells with their bars in these columns of one line. Only the last cell may go on in another. -/
structure Ruled (columns : List Nat) (cells : List String) : Prop where
  places : bars cells = columns
  marked : ∀ column ∈ columns, (barred cells).toList[column]? = some '|'
  unbroken : ∀ cell ∈ cells.dropLast, Unbroken cell

theorem ruled_bars {cells : List String} (unbroken : ∀ cell ∈ cells.dropLast, Unbroken cell) :
    Ruled (bars cells) cells :=
  ⟨rfl, fun _ => getElem?_barred, unbroken⟩

theorem length_finishedText {r : BackupRecord} (dated : 0 < r.endTs → Datable r.endTs) :
    (finishedText r).length ≤ 19 := by
  unfold finishedText
  split
  next finished =>
    have proper := Calendar.momentOfSeconds_proper r.endTs
    have years := proper.years_iff.2 (by
      rw [Calendar.secondsFromEpoch_momentOfSeconds]
      exact (dated finished).resolve_left (by omega))
    obtain ⟨year, named⟩ := Int.eq_ofNat_of_zero_le
      (show 0 ≤ (Calendar.momentOfSeconds r.endTs).date.year by omega)
    rw [← String.length_toList, toList_momentText, List.length_append,
      length_afterYear (fits_of_proper proper), named]
    have digits : (toString (year : Int)).toList.length ≤ 4 :=
      Nat.length_repr_le_iff (by decide) |>.2 (by omega)
    omega
  next => decide

namespace BackupTable

def headCells : List String := [
  "            Metadata file name           ", "  Type   ", "     Finished        ",
  " Description"]

def columns : List Nat := [41, 51, 73]

def cells (name : String) (r : BackupRecord) : List String := [
  padRight 40 name ++ " ", " " ++ padRight 7 r.backupType ++ " ",
  " " ++ padRight 19 (finishedText r) ++ " ", " " ++ r.description]

theorem ownLines_backup (name : String) (r : BackupRecord) :
    Sheet.backups.ownLines (name, r) = [barred (cells name r)] := by
  refine congrArg ([·]) (String.toList_injective ?_)
  simp [barred, cells]

theorem headLines_backups : Sheet.backups.headLines.head? = some (barred headCells) := by
  decide +kernel

theorem ruled_headCells : Ruled columns headCells :=
  @ruled_bars headCells (by decide +kernel)

abbrev Entry : Type := String × Msg .backupMetadata

def recorded (entries : List Entry) : List (String × BackupRecord) :=
  entries.map fun entry => (entry.1, BackupRecord.ofMessage entry.2)

def kind : Msg .backupMetadata → Int
  | (_, _, kind, _) => kind.toInt

def hot : Int := 1

structure Tabular (entry : Entry) : Prop where
  short : entry.1.length ≤ 40
  unbroken : Unbroken entry.1
  declared : (Contract.backupType.label? (kind entry.2)).isSome
  dated : 0 < (BackupRecord.ofMessage entry.2).endTs →
    Datable (BackupRecord.ofMessage entry.2).endTs

structure Tabled (entries : List Entry) (lines : List String) : Prop where
  rendered : render .availableBackups (.backups (recorded entries)) = .ok (ofLines lines)
  head : lines.head? = some (barred headCells)
  body : lines.drop 2 = (sortByLabel (recorded entries)).map fun row => barred (cells row.1 row.2)

/-- Every row has its bars in the columns in which the heading has them. -/
structure Aligned (entries : List Entry) (lines : List String) : Prop
    extends Tabled entries lines where
  heading : Ruled columns headCells
  rows : ∀ row ∈ sortByLabel (recorded entries), Ruled columns (cells row.1 row.2)

def rowColumns (m : Msg .backupMetadata) : List Nat :=
  if kind m = hot then [41, 53, 75] else columns

variable {entry : Entry} {entries : List Entry}

theorem backupType_ofMessage (m : Msg .backupMetadata) :
    (BackupRecord.ofMessage m).backupType =
      Contract.label Contract.backupType "BACKUP_TYPE_" (kind m) := rfl

theorem isSome_label?_iff (e : Wire.Enumeration) (n : Int) :
    (e.label? n).isSome ↔ n ∈ e.labels.map (·.2) := by
  simp only [Wire.Enumeration.label?, Option.isSome_map, List.find?_isSome, beq_iff_eq,
    List.mem_map]

theorem label_kinds : ∀ n ∈ Contract.backupType.labels.map (·.2),
    Unbroken (Contract.label Contract.backupType "BACKUP_TYPE_" n) ∧
    max 7 (Contract.label Contract.backupType "BACKUP_TYPE_" n).length =
      if n = hot then 9 else 7 := by
  decide +kernel

theorem ruled_row (tabular : Tabular entry) :
    Ruled (rowColumns entry.2) (cells entry.1 (BackupRecord.ofMessage entry.2)) := by
  obtain ⟨short, unbroken, declared, dated⟩ := tabular
  obtain ⟨label, wide⟩ := label_kinds _ ((isSome_label?_iff _ _).1 declared)
  have blank : Unbroken " " := by decide
  have places : bars (cells entry.1 (BackupRecord.ofMessage entry.2)) = rowColumns entry.2 := by
    -- The first and the third cell are as wide as those of the heading, whatever is in them.
    have name := Nat.max_eq_left short
    have finished := Nat.max_eq_left (length_finishedText dated)
    simp only [cells, bars, String.length_append, length_padRight, backupType_ofMessage, name, wide,
      finished]
    unfold rowColumns
    split <;> decide
  rw [← places]
  refine ruled_bars ?_
  simp [cells, unbroken_append, unbroken_padRight, blank, unbroken, backupType_ofMessage, label,
    Sheet.unbroken_finishedText]

theorem dated_recorded (tabular : ∀ entry ∈ entries, Tabular entry) :
    ∀ row ∈ recorded entries, Sheet.backups.Dated row := by
  intro row recorded
  obtain ⟨entry, member, rfl⟩ := List.mem_map.1 recorded
  exact (tabular entry member).dated

theorem tabled (tabular : ∀ entry ∈ entries, Tabular entry) :
    Tabled entries (Sheet.backups.headLines ++
      (sortByLabel (recorded entries)).map fun row => barred (cells row.1 row.2)) where
  rendered := by
    have rendered := @Sheet.render_lines .backups (recorded entries) (dated_recorded tabular)
    have rows : (Sheet.backups.arrange (recorded entries)).flatMap Sheet.backups.ownLines =
        (sortByLabel (recorded entries)).map fun row => barred (cells row.1 row.2) := by
      rw [List.map_eq_flatMap]
      exact List.flatMap_congr fun row _ => ownLines_backup row.1 row.2
    rw [← rows]
    exact rendered
  head := headLines_backups
  body := rfl

theorem mem_rows {row : String × BackupRecord} : row ∈ sortByLabel (recorded entries) ↔
    ∃ entry ∈ entries, (entry.1, BackupRecord.ofMessage entry.2) = row := by
  rw [mem_sortByLabel, recorded, List.mem_map]

/-- Without hot backups the table is aligned, whatever else is in it; the rows of hot backups have
the bars after the kind two columns further. -/
theorem aligned_iff (tabular : ∀ entry ∈ entries, Tabular entry) :
    (∃ lines, Tabled entries lines) ∧
    (∀ entry ∈ entries,
      Ruled (rowColumns entry.2) (cells entry.1 (BackupRecord.ofMessage entry.2))) ∧
    ((∃ lines, Aligned entries lines) ↔ ∀ entry ∈ entries, kind entry.2 ≠ hot) := by
  refine ⟨⟨_, tabled tabular⟩, fun entry member => ruled_row (tabular entry member), ?_, ?_⟩
  · rintro ⟨_, aligned⟩ entry member isHot
    have places := (ruled_row (tabular entry member)).places
    rw [(aligned.rows _ (mem_rows.2 ⟨entry, member, rfl⟩)).places, rowColumns, if_pos isHot]
      at places
    exact absurd places (by decide)
  · refine fun cool => ⟨_, tabled tabular, ruled_headCells, fun row listed => ?_⟩
    obtain ⟨entry, member, rfl⟩ := mem_rows.1 listed
    have ruled := ruled_row (tabular entry member)
    rwa [rowColumns, if_neg (cool entry member)] at ruled

def mixedEntries : List Entry :=
  [("B", (0, 0, 0, 0, 0, "", "", ())), ("a", (0, 253402300799, 0, 1, 0, "one\ntwo", "s3", ()))]

theorem mixedEntries_aligned :
    (∀ entry ∈ mixedEntries, Tabular entry) ∧ ∃ lines, Aligned mixedEntries lines := by
  have tabular : ∀ entry ∈ mixedEntries, Tabular entry := by
    refine List.forall_mem_cons.2 ⟨⟨?_, ?_, rfl, ?_⟩, List.forall_mem_singleton.2 ⟨?_, ?_, rfl, ?_⟩⟩
    all_goals first | decide +kernel | exact fun _ => .inr (by decide +kernel)
  exact ⟨tabular, (aligned_iff tabular).2.2.2 (by decide)⟩

def hotBackup : Entry := ("a", (0, 0, 1, 0, 0, "", "", ()))

theorem hotBackup_not_aligned :
    Tabular hotBackup ∧ ¬ ∃ lines, Aligned [hotBackup] lines := by
  refine ⟨⟨by decide, by decide, rfl, fun ended => absurd ended (by decide)⟩, ?_⟩
  rintro ⟨_, aligned⟩
  have places := (aligned.rows _ (mem_rows.2 ⟨hotBackup, List.mem_singleton_self _, rfl⟩)).places
  exact absurd places (by decide +kernel)

end BackupTable

end BackupConsole.Layout
