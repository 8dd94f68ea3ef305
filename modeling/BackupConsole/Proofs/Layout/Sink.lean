import BackupConsole.Proofs.Layout.Spoilt
import BackupConsole.Proofs.Listing.Outcome

set_option autoImplicit false

namespace BackupConsole

namespace Run

variable {α : Type}

def attempt (r : Run α) : Run (Except Failure α) := ⟨.ok r.outcome, r.events⟩

end Run

namespace Output

def session (steps : List Output) : Run (List (Except Failure Unit)) :=
  steps.mapM fun step => step.write.attempt

def sink (start : String) (steps : List Output) : String := start ++ (session steps).output

inductive Complete : Output → String → Prop
  | line (message : String) : Complete (.line message) (message ++ "\n")
  | layout {t : Layout.Template} {data : Layout.Data} {rows : List (String × Layout.Subject)}
      {text : String} (made : Layout.rowsOf t data = .ok rows)
      (filled : Layout.Filled t rows text) :
      Complete (.layout t data) text

inductive Raises : Output → Failure → Prop
  | layout {t : Layout.Template} {data : Layout.Data} {e : Failure}
      (spoilt : Layout.Spoilt t data e) : Raises (.layout t data) e

inductive Takes (step : Output) (sink : String) : Except Failure Unit → String → Prop
  | written {text : String} (complete : step.Complete text) :
      Takes step sink (.ok ()) (sink ++ text)
  | raised {e : Failure} (raises : step.Raises e) : Takes step sink (.error e) sink

variable {step : Output} {steps before after : List Output} {text start : String} {e : Failure}

theorem complete_iff : step.Complete text ↔ step.text = .ok text := by
  cases step with
  | line message =>
    constructor
    · rintro ⟨⟩
      rfl
    · rintro ⟨⟩
      exact .line message
  | layout t data =>
    rw [Output.text, Layout.render_eq_ok_iff]
    constructor
    · intro complete
      cases complete with
      | layout made filled => exact ⟨_, made, filled⟩
    · rintro ⟨rows, made, filled⟩
      exact .layout made filled

theorem raises_iff : step.Raises e ↔ step.text = .error e := by
  cases step with
  | line message => exact iff_of_false nofun nofun
  | layout t data =>
    rw [Output.text, Layout.render_eq_error_iff]
    constructor
    · rintro ⟨spoilt⟩
      exact spoilt
    · exact .layout

theorem takes_iff {outcome : Except Failure Unit} {next : String} :
    step.Takes start outcome next ↔
      outcome = step.write.outcome ∧ next = start ++ step.write.output := by
  cases written : step.text with
  | ok text =>
    obtain ⟨done, heard⟩ := write_of_text written
    have added : step.write.output = text := by
      rw [Run.output_eq_heard, heard]
      simp [Event.text?, String.join]
    rw [done, added]
    constructor
    · intro takes
      cases takes with
      | written complete =>
        cases written.symm.trans (complete_iff.1 complete)
        exact ⟨rfl, rfl⟩
      | raised raises => cases written.symm.trans (raises_iff.1 raises)
    · rintro ⟨rfl, rfl⟩
      exact .written (complete_iff.2 written)
  | error e =>
    rw [write_of_error written]
    have added : (Run.fail e : Run Unit).output = "" := rfl
    rw [added, String.append_empty]
    constructor
    · intro takes
      cases takes with
      | written complete => cases written.symm.trans (complete_iff.1 complete)
      | raised raises =>
        cases written.symm.trans (raises_iff.1 raises)
        exact ⟨rfl, rfl⟩
    · rintro ⟨rfl, rfl⟩
      exact .raised (raises_iff.2 written)

theorem takes_write (step : Output) (start : String) :
    step.Takes start step.write.outcome (start ++ step.write.output) :=
  takes_iff.2 ⟨rfl, rfl⟩

theorem session_eq (steps : List Output) : session steps =
    ⟨.ok (steps.map fun step => step.write.outcome),
      steps.flatMap fun step => step.write.events⟩ := by
  unfold session
  induction steps with
  | nil => rfl
  | cons step rest ih =>
    rw [List.mapM_cons, ih]
    simp [Run.attempt, bind, Run.bind, pure, Run.pure]

theorem sink_append (start : String) (before after : List Output) :
    sink start (before ++ after) = sink (sink start before) after := by
  simp only [sink, session_eq, Run.output, List.flatMap_append, List.filterMap_append,
    String.join_append, String.append_assoc]

theorem sink_cons (start : String) (step : Output) (after : List Output) :
    sink start (step :: after) = sink (start ++ step.write.output) after := by
  simp only [sink, session_eq, Run.output, List.flatMap_cons, List.filterMap_append,
    String.join_append, String.append_assoc]

theorem output_of_raises (raises : step.Raises e) : step.write.output = "" := by
  rw [write_of_error (raises_iff.1 raises)]
  rfl

/-- Every step of a session is written whole or not at all, and one that fails is as if it had not
been taken. -/
structure Atomic (start : String) (steps : List Output) : Prop where
  answers : (session steps).outcome = .ok (steps.map fun step => step.write.outcome)
  stepwise : ∀ before step, before ++ [step] <+: steps →
    step.Takes (sink start before) step.write.outcome (sink start (before ++ [step]))
  unaffected : ∀ before step later e, before ++ step :: later <+: steps → step.Raises e →
    sink start (before ++ step :: later) = sink start (before ++ later)

theorem atomic (start : String) (steps : List Output) : Atomic start steps where
  answers := by rw [session_eq]
  stepwise before step _ := by
    have last : sink (sink start before) [step] = sink start before ++ step.write.output := by
      rw [sink_cons]
      exact String.append_empty
    rw [sink_append, last]
    exact step.takes_write _
  unaffected before step later e _ raises := by
    rw [sink_append, sink_cons, output_of_raises raises, String.append_empty, sink_append]

theorem Takes.determined {found found' next next' : String} {outcome outcome' : Except Failure Unit}
    (takes : step.Takes found outcome next) (takes' : step.Takes found' outcome' next') :
    outcome = outcome' ∧ ∃ text, next = found ++ text ∧ next' = found' ++ text := by
  obtain ⟨rfl, rfl⟩ := takes_iff.1 takes
  obtain ⟨rfl, rfl⟩ := takes_iff.1 takes'
  exact ⟨rfl, _, rfl, rfl⟩

/-- Output is atomic, and what a step adds depends on no other step. Where all times have dates, a
field that is missing comes to an error of the output. -/
theorem output_atomic :
    (∀ start steps, Atomic start steps) ∧
    (∀ (step : Output) found found' outcome outcome' next next',
      step.Takes found outcome next → step.Takes found' outcome' next' →
        outcome = outcome' ∧ ∃ text, next = found ++ text ∧ next' = found' ++ text) ∧
    ∀ t data rows, Layout.rowsOf t data = .ok rows →
      (∀ row ∈ rows, ∀ piece ∈ t.row, ∀ d, piece.Dates row.2 d →
        ∃ text, Layout.timestampOf d = .ok text) →
      (∃ row ∈ rows, ∃ piece ∈ t.row, ∃ field, piece.Lacks row.2 field) →
        ∃ row ∈ rows, ∃ piece ∈ t.row, ∃ field cause, piece.Lacks row.2 field ∧
          cause = Cause.noField t.fileName row.2.typeName field ∧ cause.category = .render ∧
            Raises (.layout t data) (.refused cause) := by
  refine ⟨atomic, fun _ _ _ _ _ _ _ takes takes' => takes.determined takes', ?_⟩
  intro t data rows made dated lacking
  obtain ⟨row, member, piece, listed, field, lacks, refused⟩ :=
    Layout.refused_of_lacking made dated lacking
  exact ⟨row, member, piece, listed, field, _, lacks, rfl, rfl,
    .layout (Layout.render_eq_error_iff.1 refused)⟩

-- The second of the storages lacks all its fields.
example : sink "" [.line "a", .layout .availableStorages (.raw (.list [
    .dict [("name", .text "s3"), ("type", .text "s3"), ("valid", .bool true),
      ("can_read", .bool true), ("can_write", .bool false)],
    .dict []])), .line "b"] = "a\nb\n" := by cbv

end Output

end BackupConsole
