import BackupConsole.Command
import BackupConsole.Proofs.Run

set_option autoImplicit false

namespace BackupConsole.Command

theorem tagged_preserves {α : Type} (command : Command) (pick : Event → Option α)
    (blind : ∀ record, pick (.log record) = none) (events : List Event) :
    (events.map command.tagged).filterMap pick = events.filterMap pick := by
  rw [List.filterMap_map]
  congr 1
  funext e
  cases e <;> simp [tagged, blind]

def complaint (cause : Cause) : LogRecord :=
  { level := .error
    logger := logger
    event := cause.message
    fields := [("code", .text cause.code)] }

theorem dispatch_of_ok {files : Files} {s : Settings} {c : Coordinator} {command : Command}
    (done : (command.perform files s c).outcome = .ok ()) :
    command.dispatch files s c =
      ⟨.ok exitOk, (command.perform files s c).events.map command.tagged⟩ := by
  have judged : ((fun _ => exitOk) <$> command.perform files s c).outcome = .ok exitOk := by
    rw [Run.map_eq, done]
    rfl
  rw [dispatch, Run.recover_of_ok judged, Run.map_eq, done]
  rfl

theorem dispatch_of_refused {files : Files} {s : Settings} {c : Coordinator} {command : Command}
    {cause : Cause} (failed : (command.perform files s c).outcome = .error (.refused cause)) :
    command.dispatch files s c = ⟨.ok exitFailure,
      ((command.perform files s c).events ++ [Event.log (complaint cause)]).map
        command.tagged⟩ := by
  have judged : ((fun _ => exitOk) <$> command.perform files s c).outcome =
      .error (.refused cause) := by
    rw [Run.map_eq, failed]
    rfl
  rw [dispatch, Run.recover_of_some judged rfl, Run.map_eq]
  rfl

theorem dispatch_of_escaped {files : Files} {s : Settings} {c : Coordinator} {command : Command}
    {e : Failure} (failed : (command.perform files s c).outcome = .error e)
    (unreported : ∀ cause, e ≠ .refused cause) :
    command.dispatch files s c =
      ⟨.error e, (command.perform files s c).events.map command.tagged⟩ := by
  have judged : ((fun _ => exitOk) <$> command.perform files s c).outcome = .error e := by
    rw [Run.map_eq, failed]
    rfl
  rw [dispatch, Run.recover_of_none judged, Run.map_eq, failed]
  · rfl
  · cases e <;> simp_all

def judge : Except Failure Unit → Except Failure Nat
  | .ok () => .ok exitOk
  | .error (.refused _) => .ok exitFailure
  | .error e => .error e

theorem outcome_dispatch (files : Files) (s : Settings) (c : Coordinator) (command : Command) :
    (command.dispatch files s c).outcome = judge (command.perform files s c).outcome := by
  -- Only errors with a cause are caught.
  cases h : (command.perform files s c).outcome with
  | ok done =>
    rw [dispatch_of_ok h]
    rfl
  | error e =>
    by_cases reported : ∃ cause, e = .refused cause
    · obtain ⟨cause, rfl⟩ := reported
      rw [dispatch_of_refused h]
      rfl
    · have unreported : ∀ cause, e ≠ .refused cause := fun cause same => reported ⟨cause, same⟩
      rw [dispatch_of_escaped h unreported]
      cases e <;> simp_all [judge]

theorem observe_dispatch {α : Type} (pick : Event → Option α)
    (blind : ∀ record, pick (.log record) = none) (files : Files) (s : Settings) (c : Coordinator)
    (command : Command) :
    (command.dispatch files s c).events.filterMap pick =
      (command.perform files s c).events.filterMap pick := by
  cases h : (command.perform files s c).outcome with
  | ok done => rw [dispatch_of_ok h, tagged_preserves command pick blind]
  | error e =>
    by_cases reported : ∃ cause, e = .refused cause
    · obtain ⟨cause, rfl⟩ := reported
      rw [dispatch_of_refused h, tagged_preserves command pick blind]
      simp [blind]
    · rw [dispatch_of_escaped h fun cause same => reported ⟨cause, same⟩,
        tagged_preserves command pick blind]

theorem output_dispatch (files : Files) (s : Settings) (c : Coordinator) (command : Command) :
    (command.dispatch files s c).output = (command.perform files s c).output :=
  congrArg String.join (observe_dispatch _ (fun _ => rfl) files s c command)

theorem calls_dispatch (files : Files) (s : Settings) (c : Coordinator) (command : Command) :
    (command.dispatch files s c).calls = (command.perform files s c).calls :=
  observe_dispatch _ (fun _ => rfl) files s c command

end BackupConsole.Command
