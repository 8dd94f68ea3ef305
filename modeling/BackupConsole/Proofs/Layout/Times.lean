import BackupConsole.Proofs.Layout.Rows

set_option autoImplicit false

namespace BackupConsole.Layout

/-- A time that can be shown: none at all, or one of the years 1 to 9999. -/
def Datable (seconds : Int) : Prop :=
  seconds = 0 ∨ -62135596800 ≤ seconds ∧ seconds ≤ 253402300799

variable {t : Template} {s : Subject} {label : String} {e : Failure}

theorem secondsText_eq_error_iff {seconds : Int} (some : seconds ≠ 0) :
    secondsText seconds = .error e ↔ e = .timestampRange ∧ ¬ Datable seconds := by
  unfold secondsText inRange Datable
  by_cases within : -62135596800 ≤ seconds ∧ seconds ≤ 253402300799
  · simp [within]
  · simp [within, some, eq_comm]

theorem timestampOf_eq_error_iff {seconds : Int} :
    timestampOf (.int seconds) = .error e ↔ e = .timestampRange ∧ ¬ Datable seconds := by
  unfold timestampOf
  by_cases zero : seconds = 0
  · simp [zero, Datum.truthy, Datable]
  · simpa [zero, Datum.truthy] using secondsText_eq_error_iff zero

def Piece.Times (s : Subject) : Piece → Int → Prop
  | .time field, seconds => s.field? field = some (.int seconds)
  | .ended _, seconds =>
    s.field? "completed" = some (.bool true) ∧ s.field? "end_ts" = some (.int seconds)
  | _, _ => False

def Piece.Fits (s : Subject) : Piece → Prop
  | .text _ => True
  | .label _ => True
  | .shown field => ∃ d, s.field? field = some d
  | .padded _ field => ∃ d, s.field? field = some d
  | .yesNo field => ∃ d, s.field? field = some d
  | .time field => ∃ seconds, s.field? field = some (.int seconds)
  | .ended _ => ∃ completed seconds, s.field? "completed" = some (.bool completed) ∧
    s.field? "end_ts" = some (.int seconds)

theorem fieldOf_of_some {field : String} {d : Datum} (found : s.field? field = some d) :
    fieldOf t s field = .ok d := by
  rw [fieldOf, found]

theorem pieceText_of_timeless {piece : Piece}
    (written : ∃ text, pieceText t label s piece = .ok text)
    (timeless : ∀ seconds, ¬ piece.Times s seconds) :
    pieceText t label s piece = .error e ↔
      e = .timestampRange ∧ ∃ seconds, piece.Times s seconds ∧ ¬ Datable seconds := by
  obtain ⟨text, written⟩ := written
  rw [written]
  refine iff_of_false (fun failed => by cases failed) ?_
  rintro ⟨_, seconds, times, _⟩
  exact timeless seconds times

theorem pieceText_eq_error_iff {piece : Piece} (fits : piece.Fits s) :
    pieceText t label s piece = .error e ↔
      e = .timestampRange ∧ ∃ seconds, piece.Times s seconds ∧ ¬ Datable seconds := by
  cases piece with
  | text text => exact pieceText_of_timeless ⟨text, rfl⟩ fun _ => id
  | label width => exact pieceText_of_timeless ⟨_, rfl⟩ fun _ => id
  | shown field =>
    obtain ⟨d, found⟩ := fits
    apply pieceText_of_timeless _ fun _ => id
    simp [pieceText, fieldOf_of_some found, Except.map]
  | padded width field =>
    obtain ⟨d, found⟩ := fits
    apply pieceText_of_timeless _ fun _ => id
    simp [pieceText, fieldOf_of_some found, Except.map]
  | yesNo field =>
    obtain ⟨d, found⟩ := fits
    apply pieceText_of_timeless _ fun _ => id
    simp [pieceText, fieldOf_of_some found, Except.map]
  | time field =>
    obtain ⟨seconds, found⟩ := fits
    simp only [pieceText, fieldOf_of_some found, Piece.Times, found, Option.some.injEq,
      Datum.int.injEq, exists_eq_left']
    exact timestampOf_eq_error_iff
  | ended width =>
    obtain ⟨completed, seconds, finished, found⟩ := fits
    cases completed with
    | false =>
      apply pieceText_of_timeless
      · simp [pieceText, fieldOf_of_some finished, Datum.truthy, bind, Except.bind, pure,
          Except.pure]
      · simp [Piece.Times, finished]
    | true =>
      simp only [Piece.Times, finished, found, Option.some.injEq, Datum.int.injEq, true_and,
        exists_eq_left']
      rw [← timestampOf_eq_error_iff]
      have shown : pieceText t label s (.ended width) =
          (timestampOf (.int seconds)).map (Text.padRight width) := by
        rw [pieceText, fieldOf_of_some finished, fieldOf_of_some found]
        change (timestampOf (.int seconds) >>= fun text => pure (Text.padRight width text)) = _
        cases timestampOf (.int seconds) <;> rfl
      rw [shown]
      cases timestampOf (.int seconds) <;> simp [Except.map]

def Template.Times (t : Template) (s : Subject) (seconds : Int) : Prop :=
  ∃ piece ∈ t.row, piece.Times s seconds

def Template.Fits (t : Template) (s : Subject) : Prop :=
  ∀ piece ∈ t.row, piece.Fits s

theorem rowText_eq_error_iff (fits : t.Fits s) :
    rowText t label s = .error e ↔
      e = .timestampRange ∧ ∃ seconds, t.Times s seconds ∧ ¬ Datable seconds := by
  have pieces : t.row.mapM (pieceText t label s) = .error e ↔ _ :=
    mapM_eq_error_iff fun piece member e => pieceText_eq_error_iff (fits piece member)
  have joined : rowText t label s = .error e ↔ t.row.mapM (pieceText t label s) = .error e := by
    rw [rowText]
    cases t.row.mapM (pieceText t label s) <;> simp [Except.map]
  rw [joined, pieces]
  refine and_congr_right fun _ => ?_
  constructor
  · rintro ⟨piece, member, seconds, times, undatable⟩
    exact ⟨seconds, ⟨piece, member, times⟩, undatable⟩
  · rintro ⟨seconds, ⟨piece, member, times⟩, undatable⟩
    exact ⟨piece, member, seconds, times, undatable⟩

theorem rowsText_eq_error_iff {rows : List (String × Subject)} (fits : ∀ row ∈ rows, t.Fits row.2) :
    rowsText t rows = .error e ↔ e = .timestampRange ∧
      ∃ row ∈ rows, ∃ seconds, t.Times row.2 seconds ∧ ¬ Datable seconds := by
  have each : (rows.mapM fun row => rowText t row.1 row.2) = .error e ↔ _ :=
    mapM_eq_error_iff fun row member e => rowText_eq_error_iff (fits row member)
  rw [← each, rowsText]
  cases rows.mapM fun (row : String × Subject) => rowText t row.1 row.2 <;>
    simp [bind, Except.bind, pure, Except.pure]

theorem fits_agent (r : AgentRecord) {t : Template}
    (nodes : t = .connectedNodes ∨ t = .connectedNodesVerbose) : t.Fits (agentSubject r) := by
  rcases nodes with rfl | rfl
  · simp only [Template.Fits, Template.row, List.forall_mem_cons]
    and_intros <;> first | trivial | exact ⟨_, rfl⟩ | nofun
  · simp only [Template.Fits, Template.row, List.forall_mem_cons]
    and_intros <;> first | trivial | exact ⟨_, rfl⟩ | nofun

theorem fits_backup (r : BackupRecord) : Template.availableBackups.Fits (backupSubject r) := by
  simp only [Template.Fits, Template.row, List.forall_mem_cons]
  and_intros <;> first | trivial | exact ⟨_, rfl⟩ | exact ⟨_, _, rfl, rfl⟩ | nofun

theorem fits_storage (r : StorageRecord) : Template.availableStorages.Fits (storageSubject r) := by
  simp only [Template.Fits, Template.row, List.forall_mem_cons]
  and_intros <;> first | trivial | exact ⟨_, rfl⟩ | nofun

theorem times_agent {r : AgentRecord} {seconds : Int} :
    Template.connectedNodesVerbose.Times (agentSubject r) seconds ↔ seconds = r.lastSeen := by
  have found : (agentSubject r).field? "last_seen" = some (.int r.lastSeen) := rfl
  simp [Template.Times, Template.row, Piece.Times, found, eq_comm]

theorem times_backup {r : BackupRecord} {seconds : Int} :
    Template.availableBackups.Times (backupSubject r) seconds ↔
      0 < r.endTs ∧ seconds = r.endTs := by
  have completed : (backupSubject r).field? "completed" = some (.bool (decide (0 < r.endTs))) := rfl
  have found : (backupSubject r).field? "end_ts" = some (.int r.endTs) := rfl
  simp [Template.Times, Template.row, Piece.Times, completed, found, eq_comm]

theorem not_times_nodes {s : Subject} {seconds : Int} :
    ¬ Template.connectedNodes.Times s seconds := by
  simp [Template.Times, Template.row, Piece.Times]

theorem not_times_storage {s : Subject} {seconds : Int} :
    ¬ Template.availableStorages.Times s seconds := by
  simp [Template.Times, Template.row, Piece.Times]

theorem mem_sortByLabel {α : Type} {entries : List (String × α)} {entry : String × α} :
    entry ∈ sortByLabel entries ↔ entry ∈ entries := by
  simp only [sortByLabel, List.mem_map, List.mem_mergeSort]
  constructor
  · rintro ⟨_, ⟨other, listed, rfl⟩, rfl⟩
    exact listed
  · exact fun listed => ⟨_, ⟨entry, listed, rfl⟩, rfl⟩

end BackupConsole.Layout
