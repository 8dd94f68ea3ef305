import BackupConsole.Proofs.Layout.Rows

set_option autoImplicit false

namespace BackupConsole.Layout

def rowsOf (t : Template) (data : Data) : Except Failure (List (String × Subject)) :=
  match t with
  | .version => .ok [("", data.subject)]
  | .availableBackups => data.entries.map sortByLabel
  | _ => data.items.map fun items => items.map fun s => ("", s)

def Piece.Lacks (s : Subject) : Piece → String → Prop
  | .shown name, field => field = name ∧ s.field? name = none
  | .padded _ name, field => field = name ∧ s.field? name = none
  | .yesNo name, field => field = name ∧ s.field? name = none
  | .time name, field => field = name ∧ s.field? name = none
  | .ended _, field => field = "completed" ∧ s.field? "completed" = none ∨
    field = "end_ts" ∧ (∃ d, s.field? "completed" = some d ∧ d.truthy) ∧ s.field? "end_ts" = none
  | _, _ => False

def Piece.Dates (s : Subject) : Piece → Datum → Prop
  | .time name, d => s.field? name = some d
  | .ended _, d =>
    (∃ completed, s.field? "completed" = some completed ∧ completed.truthy) ∧
      s.field? "end_ts" = some d
  | _, _ => False

inductive PieceSpoilt (t : Template) (s : Subject) (piece : Piece) : Failure → Prop
  | missing {field : String} (lacks : piece.Lacks s field) :
      PieceSpoilt t s piece (.refused (.noField t.fileName s.typeName field))
  | undated {d : Datum} {e : Failure} (dates : piece.Dates s d)
      (undated : timestampOf d = .error e) : PieceSpoilt t s piece e

def RowSpoilt (t : Template) (label : String) (s : Subject) (e : Failure) : Prop :=
  ∃ before piece after, t.row = before ++ piece :: after ∧
    (∀ earlier ∈ before, ∃ text, pieceText t label s earlier = .ok text) ∧ PieceSpoilt t s piece e

inductive Spoilt (t : Template) (data : Data) : Failure → Prop
  | shapeless {e : Failure} (failed : rowsOf t data = .error e) : Spoilt t data e
  | row {before after : List (String × Subject)} {row : String × Subject} {e : Failure}
      (made : rowsOf t data = .ok (before ++ row :: after))
      (written : ∀ earlier ∈ before, ∃ text, rowText t earlier.1 earlier.2 = .ok text)
      (spoilt : RowSpoilt t row.1 row.2 e) : Spoilt t data e

variable {t : Template} {s : Subject} {label : String} {e : Failure} {data : Data}
  {rows : List (String × Subject)}

theorem fieldOf_eq_error_iff {field : String} : fieldOf t s field = .error e ↔
    s.field? field = none ∧ e = .refused (.noField t.fileName s.typeName field) := by
  unfold fieldOf
  cases s.field? field <;> simp [eq_comm]

theorem fieldOf_eq_ok_iff {field : String} {d : Datum} :
    fieldOf t s field = .ok d ↔ s.field? field = some d := by
  unfold fieldOf
  cases s.field? field <;> simp

theorem shown_eq_error_iff {field : String} {f : Datum → String} {piece : Piece}
    (lacks : ∀ name, piece.Lacks s name ↔ name = field ∧ s.field? field = none)
    (dateless : ∀ d, ¬ piece.Dates s d) :
    (fieldOf t s field).map f = .error e ↔ PieceSpoilt t s piece e := by
  rw [map_eq_error_iff, fieldOf_eq_error_iff]
  constructor
  · rintro ⟨absent, rfl⟩
    exact .missing ((lacks field).2 ⟨rfl, absent⟩)
  · intro spoilt
    cases spoilt with
    | missing lacking =>
      obtain ⟨rfl, absent⟩ := (lacks _).1 lacking
      exact ⟨absent, rfl⟩
    | undated dates => exact absurd dates (dateless _)

theorem timed_eq_error_iff {field : String} : (fieldOf t s field >>= timestampOf) = .error e ↔
    s.field? field = none ∧ e = .refused (.noField t.fileName s.typeName field) ∨
      ∃ d, s.field? field = some d ∧ timestampOf d = .error e := by
  simp only [bind_eq_error_iff, fieldOf_eq_error_iff, fieldOf_eq_ok_iff]

theorem ended_eq_error_iff {width : Nat} :
    pieceText t label s (.ended width) = .error e ↔ PieceSpoilt t s (.ended width) e := by
  have ended : pieceText t label s (.ended width) = .error e ↔
      fieldOf t s "completed" = .error e ∨ ∃ d, fieldOf t s "completed" = .ok d ∧ d.truthy ∧
        (fieldOf t s "end_ts" >>= timestampOf) = .error e := by
    rw [pieceText, bind_eq_error_iff]
    refine or_congr_right (exists_congr fun d => and_congr_right fun _ => ?_)
    cases finished : d.truthy with
    | false => simp [bind, Except.bind, pure, Except.pure]
    | true =>
      simp only [if_true, true_and]
      rw [bind_eq_error_iff]
      simp [pure, Except.pure]
  rw [ended, timed_eq_error_iff]
  simp only [fieldOf_eq_error_iff, fieldOf_eq_ok_iff]
  constructor
  · rintro (⟨absent, rfl⟩ | ⟨d, found, finished, ⟨absent, rfl⟩ | ⟨d', found', failed⟩⟩)
    · exact .missing (.inl ⟨rfl, absent⟩)
    · exact .missing (.inr ⟨rfl, ⟨d, found, finished⟩, absent⟩)
    · exact .undated ⟨⟨d, found, finished⟩, found'⟩ failed
  · intro spoilt
    cases spoilt with
    | missing lacks =>
      rcases lacks with ⟨rfl, absent⟩ | ⟨rfl, ⟨d, found, finished⟩, absent⟩
      · exact .inl ⟨absent, rfl⟩
      · exact .inr ⟨d, found, finished, .inl ⟨absent, rfl⟩⟩
    | undated dates failed =>
      obtain ⟨⟨d, found, finished⟩, found'⟩ := dates
      exact .inr ⟨d, found, finished, .inr ⟨_, found', failed⟩⟩

theorem pieceText_eq_error_iff_spoilt {piece : Piece} :
    pieceText t label s piece = .error e ↔ PieceSpoilt t s piece e := by
  have kept {text : String} {piece : Piece} (lacks : ∀ name, ¬ piece.Lacks s name)
      (dateless : ∀ d, ¬ piece.Dates s d) :
      (.ok text : Except Failure String) = .error e ↔ PieceSpoilt t s piece e := by
    refine iff_of_false nofun fun spoilt => ?_
    cases spoilt with
    | missing lacking => exact lacks _ lacking
    | undated dates => exact dateless _ dates
  cases piece with
  | text text => exact kept (fun _ => id) fun _ => id
  | label width => exact kept (fun _ => id) fun _ => id
  | shown field => exact shown_eq_error_iff (fun _ => .rfl) fun _ => id
  | padded width field => exact shown_eq_error_iff (fun _ => .rfl) fun _ => id
  | yesNo field => exact shown_eq_error_iff (fun _ => .rfl) fun _ => id
  | ended width => exact ended_eq_error_iff
  | time field =>
    rw [pieceText, timed_eq_error_iff]
    constructor
    · rintro (⟨absent, rfl⟩ | ⟨d, found, failed⟩)
      · exact .missing ⟨rfl, absent⟩
      · exact .undated found failed
    · intro spoilt
      cases spoilt with
      | missing lacks =>
        obtain ⟨rfl, absent⟩ := lacks
        exact .inl ⟨absent, rfl⟩
      | undated dates failed => exact .inr ⟨_, dates, failed⟩

theorem rowText_eq_error_iff_spoilt : rowText t label s = .error e ↔ RowSpoilt t label s e := by
  rw [rowText, map_eq_error_iff, mapM_eq_error_iff_first]
  simp only [pieceText_eq_error_iff_spoilt]
  rfl

theorem render_eq (t : Template) (data : Data) : render t data = rowsOf t data >>= rowsText t := by
  cases t with
  | version => rfl
  | availableBackups => cases entries : data.entries <;> simp [render, rowsOf, entries] <;> rfl
  | connectedNodes | connectedNodesVerbose | availableStorages =>
    cases items : data.items <;> simp [render, rowsOf, items] <;> rfl

theorem render_eq_ok_iff {text : String} :
    render t data = .ok text ↔ ∃ rows, rowsOf t data = .ok rows ∧ Filled t rows text := by
  simp only [← rowsText_eq_ok_iff]
  rw [render_eq]
  constructor
  · exact bind_eq_ok
  · rintro ⟨rows, made, written⟩
    rw [made]
    exact written

theorem rowsText_eq_error_iff_first : rowsText t rows = .error e ↔
    ∃ before row after, rows = before ++ row :: after ∧
      (∀ earlier ∈ before, ∃ text, rowText t earlier.1 earlier.2 = .ok text) ∧
      RowSpoilt t row.1 row.2 e := by
  simp only [← rowText_eq_error_iff_spoilt]
  rw [← mapM_eq_error_iff_first, rowsText, bind_eq_error_iff]
  simp [pure, Except.pure]

theorem render_eq_error_iff : render t data = .error e ↔ Spoilt t data e := by
  rw [render_eq, bind_eq_error_iff]
  simp only [rowsText_eq_error_iff_first]
  constructor
  · rintro (failed | ⟨_, made, before, row, after, rfl, written, spoilt⟩)
    · exact .shapeless failed
    · exact .row made written spoilt
  · intro spoilt
    cases spoilt with
    | shapeless failed => exact .inl failed
    | row made written spoilt => exact .inr ⟨_, made, _, _, _, rfl, written, spoilt⟩

theorem refused_of_lacking (made : rowsOf t data = .ok rows)
    (dated : ∀ row ∈ rows, ∀ piece ∈ t.row, ∀ d, piece.Dates row.2 d →
      ∃ text, timestampOf d = .ok text)
    (lacking : ∃ row ∈ rows, ∃ piece ∈ t.row, ∃ field, piece.Lacks row.2 field) :
    ∃ row ∈ rows, ∃ piece ∈ t.row, ∃ field, piece.Lacks row.2 field ∧
      render t data = .error (.refused (.noField t.fileName row.2.typeName field)) := by
  cases rendered : render t data with
  | ok text =>
    obtain ⟨row, member, piece, listed, field, lacks⟩ := lacking
    obtain ⟨rows', made', texts, written, _⟩ := render_eq_ok_iff.1 rendered
    cases made.symm.trans made'
    obtain ⟨_, row_written⟩ := ok_of_mapM_ok (mapM_eq_ok_iff.2 written) member
    obtain ⟨_, pieces, _⟩ := map_eq_ok row_written
    obtain ⟨_, shown⟩ := ok_of_mapM_ok pieces listed
    cases shown.symm.trans (pieceText_eq_error_iff_spoilt.2 (.missing lacks))
  | error e =>
    cases render_eq_error_iff.1 rendered with
    | shapeless failed => cases made.symm.trans failed
    | @row before after row _ made' written spoilt =>
      cases made.symm.trans made'
      obtain ⟨earlier, piece, later, place, _, spoilt⟩ := spoilt
      have listed : piece ∈ t.row := place ▸ List.mem_append_right _ List.mem_cons_self
      have member : row ∈ before ++ row :: after := List.mem_append_right _ List.mem_cons_self
      cases spoilt with
      | missing lacks => exact ⟨row, member, piece, listed, _, lacks, rfl⟩
      | undated dates undated =>
        obtain ⟨text, dated⟩ := dated row member piece listed _ dates
        cases dated.symm.trans undated

end BackupConsole.Layout
