import BackupConsole.Layout.Template
import BackupConsole.Proofs.Except

set_option autoImplicit false

namespace BackupConsole

namespace Layout

def Filled (t : Template) (rows : List (String × Subject)) (text : String) : Prop :=
  ∃ texts, List.Forall₂ (fun row text => rowText t row.1 row.2 = .ok text) rows texts ∧
    text = t.heading ++ String.join texts

theorem rowsText_eq_ok_iff {t : Template} {rows : List (String × Subject)} {text : String} :
    rowsText t rows = .ok text ↔ Filled t rows text := by
  unfold Filled
  simp only [← mapM_eq_ok_iff]
  unfold rowsText
  cases rows.mapM fun (row : String × Subject) => rowText t row.1 row.2 with
  | error e => simp [bind, Except.bind]
  | ok texts => simp [bind, Except.bind, pure, Except.pure, eq_comm]

inductive Unwritten (t : Template) : Failure → Prop
  | noField {typeName field : String} :
      Unwritten t (.refused (.noField t.fileName typeName field))
  | timestampRange : Unwritten t .timestampRange
  | wrongType : Unwritten t .wrongType
  | missingAttribute : Unwritten t .missingAttribute

variable {t : Template} {subject : Subject} {e : Failure}

theorem fieldOf_error {field : String} (failed : fieldOf t subject field = .error e) :
    Unwritten t e := by
  unfold fieldOf at failed
  split at failed <;> cases failed
  exact .noField

theorem secondsText_error {seconds : Int} (failed : secondsText seconds = .error e) :
    Unwritten t e := by
  unfold secondsText at failed
  split at failed <;> cases failed
  exact .timestampRange

theorem timestampOf_error {d : Datum} (failed : timestampOf d = .error e) : Unwritten t e := by
  unfold timestampOf at failed
  split at failed
  next => cases failed
  next =>
    split at failed
    next => exact secondsText_error failed
    next => exact secondsText_error failed
    next =>
      split at failed
      next => exact secondsText_error failed
      next =>
        cases failed
        exact .timestampRange
    next =>
      cases failed
      exact .wrongType

theorem pieceText_error {label : String} {piece : Piece}
    (failed : pieceText t label subject piece = .error e) : Unwritten t e := by
  have timed {field : String} (failed : (fieldOf t subject field >>= timestampOf) = .error e) :
      Unwritten t e := by
    rcases bind_eq_error failed with missing | ⟨d, _, untimed⟩
    · exact fieldOf_error missing
    · exact timestampOf_error untimed
  cases piece with
  | text text => cases failed
  | label width => cases failed
  | shown field => exact fieldOf_error (map_eq_error failed)
  | padded width field => exact fieldOf_error (map_eq_error failed)
  | yesNo field => exact fieldOf_error (map_eq_error failed)
  | time field => exact timed failed
  | ended width =>
    rcases bind_eq_error failed with missing | ⟨completed, _, failed⟩
    · exact fieldOf_error missing
    · cases finished : completed.truthy with
      | false => simp [finished, bind, Except.bind, pure, Except.pure] at failed
      | true =>
        simp only [finished, if_true] at failed
        rcases bind_eq_error failed with unshown | ⟨text, _, failed⟩
        · exact timed unshown
        · cases failed

theorem rowText_error {label : String} (failed : rowText t label subject = .error e) :
    Unwritten t e := by
  obtain ⟨piece, _, failed⟩ := mapM_eq_error (map_eq_error failed)
  exact pieceText_error failed

theorem rowsText_error {rows : List (String × Subject)} (failed : rowsText t rows = .error e) :
    Unwritten t e := by
  rcases bind_eq_error failed with failed | ⟨texts, _, failed⟩
  · obtain ⟨row, _, failed⟩ := mapM_eq_error failed
    exact rowText_error failed
  · cases failed

theorem render_error {data : Data} (failed : render t data = .error e) : Unwritten t e := by
  have itemized (failed : (data.items >>= fun items =>
      rowsText t (items.map fun s => ("", s))) = .error e) : Unwritten t e := by
    rcases bind_eq_error failed with failed | ⟨items, _, failed⟩
    · unfold Data.items at failed
      split at failed <;> cases failed
      exact .wrongType
    · exact rowsText_error failed
  cases t with
  | version => exact rowsText_error failed
  | availableBackups =>
    rcases bind_eq_error failed with failed | ⟨entries, _, failed⟩
    · unfold Data.entries at failed
      split at failed <;> cases failed
      exact .missingAttribute
    · exact rowsText_error failed
  | connectedNodes => exact itemized failed
  | connectedNodesVerbose => exact itemized failed
  | availableStorages => exact itemized failed

end Layout

end BackupConsole
