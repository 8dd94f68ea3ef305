import BackupConsole.Proofs.Certificates
import BackupConsole.Proofs.Interrupt.Signalled
import BackupConsole.Proofs.Listing.Report
import BackupConsole.Proofs.Session

set_option autoImplicit false

namespace BackupConsole

open CommandLine (Invocation)

variable {α β : Type}

namespace Interrupt

theorem guard_of_signal {r : Run α} (cancelled : r.outcome = .error .cancelled)
    (signal : r.signals ≠ 0) : (guard r).outcome = .error .interrupted := by
  simp [guard, cancelled, signal]

theorem guard_of_unsignalled {r : Run α} (unsignalled : r.signals = 0) :
    (guard r).outcome = r.outcome := by
  unfold guard
  split
  next cancelled => rw [cancelled, if_pos unsignalled]
  next => rfl

theorem observe_guard {pick : Event → Option β} (blind : ∀ record, pick (.log record) = none)
    (r : Run α) : (guard r).events.filterMap pick = r.events.filterMap pick := by
  rw [guard]
  induction r.events with
  | nil => rfl
  | cons event events ih =>
    rw [List.flatMap_cons, List.filterMap_append, ih, List.filterMap_cons]
    cases event <;> simp [noted, blind, List.filterMap_cons]
    all_goals split <;> rfl

theorem quiet_guard {r : Run α} (quiet : r.Leaves Event.Quiet) :
    (guard r).Leaves Event.Quiet := by
  intro event member
  obtain ⟨origin, left, noting⟩ := List.mem_flatMap.1 member
  cases origin with
  | signal =>
    simp only [noted, List.mem_cons, List.not_mem_nil, or_false] at noting
    rcases noting with rfl | rfl <;> rfl
  | _ =>
    rw [List.mem_singleton.1 noting]
    exact quiet _ left

end Interrupt

theorem Command.quiet_tagged (command : Command) {r : Run α} (quiet : r.Leaves Event.Quiet) :
    ∀ event ∈ r.events.map command.tagged, event.Quiet := by
  intro event member
  obtain ⟨origin, left, rfl⟩ := List.mem_map.1 member
  have unheard := quiet origin left
  cases origin <;> exact unheard

namespace Session

open Interrupt

variable {files : Files} {s : Settings} {c : Coordinator} {command : Command}

theorem runCommand_of_interrupted
    (interrupted : (guard (command.dispatch files s c)).outcome = .error .interrupted) :
    runCommand files s c command = ⟨.ok (.finished Interrupt.exitCode),
      (guard (command.dispatch files s c)).events ++ [.log {
        level := .warning
        logger := "backupctl.cli.invocation"
        event := "Interrupted"
        fields := [("command", .text command.name)] }]⟩ := by
  have stopped : (Exit.finished <$> guard (command.dispatch files s c)).outcome =
      .error .interrupted := by
    rw [Run.map_eq, interrupted]
    rfl
  rw [runCommand, Run.recover_of_some stopped rfl, Run.map_eq]
  rfl

theorem runCommand_of_uninterrupted
    (uninterrupted : (guard (command.dispatch files s c)).outcome ≠ .error .interrupted) :
    runCommand files s c command = Exit.finished <$> guard (command.dispatch files s c) := by
  have mapped : (Exit.finished <$> guard (command.dispatch files s c)).outcome =
      (guard (command.dispatch files s c)).outcome.map Exit.finished := by rw [Run.map_eq]
  rw [runCommand]
  cases outcome : (guard (command.dispatch files s c)).outcome with
  | ok code =>
    rw [outcome] at mapped
    exact Run.recover_of_ok mapped _
  | error e =>
    rw [outcome] at mapped
    refine Run.recover_of_none mapped ?_
    cases e <;> simp_all

theorem observe_runCommand {pick : Event → Option β}
    (blind : ∀ record, pick (.log record) = none) (files : Files) (s : Settings)
    (c : Coordinator) (command : Command) :
    (runCommand files s c command).events.filterMap pick =
      (command.perform files s c).events.filterMap pick := by
  rw [← Command.observe_dispatch pick blind, ← observe_guard blind (command.dispatch files s c)]
  by_cases interrupted : (guard (command.dispatch files s c)).outcome = .error .interrupted
  · rw [runCommand_of_interrupted interrupted, List.filterMap_append]
    simp [blind]
  · rw [runCommand_of_uninterrupted interrupted, Run.map_eq]

end Session

namespace Interrupt

open Session

variable {files : Files} {s : Settings} {c : Coordinator} {command : Command}

theorem Signalled.split {deeds : List Event} (signalled : Signalled files s c command deeds) :
    ∃ before after, deeds = before ++ .signal :: after ∧ .signal ∉ before ∧
      ∀ event ∈ after, event.Release := by
  cases signalled with
  | @connecting _ _ _ params own made opened timely signal =>
    refine ⟨[.opened params], [.closed], rfl, by simp, ?_⟩
    simp [Event.Release]
  | @reading l params items opened ready converted signal =>
    refine ⟨.opened params :: .sent (Client.sentCall s.apiToken c.metadata l.method []) ::
        List.replicate (items.length + 1) .read,
      [.cancel (l.script c).cancelFault.isNone, .closed], by simp, by simp, ?_⟩
    simp [Event.Release]
  | @calling op bytes params made opened ready signal =>
    refine ⟨[.opened params, .sent (Client.sentCall s.apiToken c.metadata op.method bytes)],
      [.closed], rfl, by simp, ?_⟩
    simp [Event.Release]

/-- A run that a signal ended, without a word and with everything released. -/
structure StoppedCleanly (command : Command) (run : Run α) : Prop where
  silent : run.output = ""
  uncomplained : run.errors = []
  one_signal : run.signals = 1
  one_channel : run.channels.length = 1
  closed_once : run.closings = 1
  -- A listing that has sent its call has its stream open.
  cancelled_once : (∃ l : Listing, command = l.command) → run.cancels = run.calls.length
  nothing_after : ∀ before after, run.events = before ++ .signal :: after →
    ∀ event ∈ after, event.Release

theorem release_of_deeds {deeds after : List Event} (released : ∀ event ∈ deeds, event.Release)
    (same : after.filterMap Event.deed? = deeds) : ∀ event ∈ after, event.Release := by
  intro event member
  cases event with
  | log record => trivial
  | _ => exact released _ (same ▸ List.mem_filterMap.2 ⟨_, member, rfl⟩)

theorem Signalled.stoppedCleanly {deeds : List Event}
    (signalled : Signalled files s c command deeds) {run : Run α} (did : run.deeds = deeds)
    (quiet : run.Leaves Event.Quiet) : StoppedCleanly command run := by
  have unheard := Run.heard_of_leaves quiet
  have counted {p : Event → Bool} (blind : ∀ record, p (.log record) = false) :
      run.events.countP p = deeds.countP p := by rw [Run.countP_deeds blind, did]
  have picked {γ : Type} {pick : Event → Option γ} (blind : ∀ record, pick (.log record) = none) :
      run.events.filterMap pick = deeds.filterMap pick := by rw [Run.filterMap_deeds blind, did]
  refine {
    silent := by rw [Run.output_eq_heard, unheard]; rfl
    uncomplained := by rw [Run.errors_eq_heard, unheard]; rfl
    one_signal := ?_
    one_channel := ?_
    closed_once := ?_
    cancelled_once := ?_
    nothing_after := ?_ }
  · rw [Run.signals_eq, counted fun _ => rfl]
    cases signalled <;> simp [List.countP_cons, List.countP_replicate, Event.isSignal]
  · rw [Run.channels_eq, picked fun _ => rfl]
    cases signalled <;> simp [List.filterMap_cons, List.filterMap_replicate, Event.channel?]
  · rw [Run.closings_eq, counted fun _ => rfl]
    cases signalled <;> simp [List.countP_cons, List.countP_replicate, Event.isClosed]
  · rintro ⟨l, listing⟩
    rw [Run.cancels, Run.calls_eq, counted fun _ => rfl, picked fun _ => rfl]
    cases signalled with
    | @calling op => cases op <;> cases l <;> cases listing
    | _ => simp [List.countP_cons, List.countP_replicate, List.filterMap_cons,
        List.filterMap_replicate, Event.isCancel, Event.call?]
  · intro before after split
    obtain ⟨earlier, later, parts, unsignalled, released⟩ := signalled.split
    have cut : earlier ++ .signal :: later =
        before.filterMap Event.deed? ++ .signal :: after.filterMap Event.deed? := by
      rw [← parts, ← did, Run.deeds, split, List.filterMap_append]
      rfl
    have once : .signal ∉ later := fun member => released _ member
    have same := (List.append_cons_inj_of_notMem unsignalled once).1 cut
    exact release_of_deeds released same.2.2.symm

theorem runCommand_of_signalled {deeds : List Event}
    (signalled : Signalled files s c command deeds) :
    (guard (command.dispatch files s c)).outcome = .error .interrupted ∧
      (runCommand files s c command).outcome = .ok (.finished exitCode) ∧
      (runCommand files s c command).deeds = deeds ∧
      (runCommand files s c command).Leaves Event.Quiet := by
  obtain ⟨cancelled, did, quiet⟩ := perform_of_signalled signalled
  have escaped := Command.dispatch_of_escaped cancelled fun _ => Failure.noConfusion
  have outcome : (command.dispatch files s c).outcome = .error .cancelled := by rw [escaped]
  have signal : (command.dispatch files s c).signals ≠ 0 := by
    obtain ⟨before, after, parts, _, _⟩ := signalled.split
    have same : (command.dispatch files s c).deeds = deeds :=
      (Command.observe_dispatch _ (fun _ => rfl) files s c command).trans did
    rw [Run.signals_eq, Run.countP_deeds fun _ => rfl, same, parts]
    simp [Event.isSignal]
  have interrupted := guard_of_signal outcome signal
  refine ⟨interrupted, by rw [runCommand_of_interrupted interrupted], ?_, ?_⟩
  · exact (observe_runCommand (fun _ => rfl) files s c command).trans did
  · have dispatched : (command.dispatch files s c).Leaves Event.Quiet := by
      rw [escaped]
      exact command.quiet_tagged quiet
    rw [runCommand_of_interrupted interrupted]
    intro event member
    rcases List.mem_append.1 member with member | member
    · exact quiet_guard dispatched event member
    · rw [List.mem_singleton.1 member]
      rfl

theorem channelParams_ne_interrupted (files : Files) (s : Settings) :
    channelParams files s ≠ .error .interrupted := by
  intro unopened
  rcases channelParams_eq_error_iff.1 unopened with ⟨cause, _, told⟩ | ⟨_, _, _, unusable⟩
  · cases told
  · have loading := loads files s.tlsCaFile
    rw [unusable] at loading
    cases loading with
    | homeless unexpanded =>
      have unknown := ConfigFile.eq_homeless_of_expand unexpanded
      rcases ConfigFile.homeless_cases _ with same | ⟨text, same⟩ <;> cases unknown.trans same

theorem await_ne_interrupted (s : Settings) (readiness : Readiness) :
    (Channel.await s readiness).outcome ≠ .error .interrupted := by
  intro unready
  by_cases late : Channel.Late s readiness
  · rw [Channel.await_of_late late] at unready
    cases unready
  · rw [Channel.await_of_timely late] at unready
    cases ending : readiness.ending <;> rw [ending] at unready <;> cases unready

theorem text_ne_interrupted (output : Output) : output.text ≠ .error .interrupted := by
  intro unwritten
  cases output with
  | line message => cases unwritten
  | layout t data => cases Layout.render_error unwritten

theorem reads_ne_interrupted (l : Listing) (c : Coordinator) :
    ¬ l.Reads c (.error .interrupted) := by
  intro failed
  generalize told : (Except.error .interrupted : Except Failure (List l.Item)) = outcome at failed
  cases failed with
  | whole converted ended closed => cases told
  | unclosed converted ended fault => cases told
  | broken first =>
    cases first with
    | item place converted fails =>
      rw [Listing.convert_error fails] at told
      cases told
    | ending converted fails =>
      cases ending : (l.script c).ending <;> rw [ending] at fails <;> cases fails <;> cases told

/-- Only the guard makes an interrupt of a cancellation: no command ends as interrupted itself. -/
theorem perform_ne_interrupted (files : Files) (s : Settings) (c : Coordinator)
    (command : Command) : (command.perform files s c).outcome ≠ .error .interrupted := by
  intro ended
  rcases command.kinds with ⟨l, rfl⟩ | ⟨op, rfl⟩ | rfl
  · have ends := l.ends files s c
    rw [ended] at ends
    generalize (l.command.perform files s c).heard = heard at ends
    cases ends with
    | unopened unopened => exact channelParams_ne_interrupted files s unopened
    | unready opened unready => exact await_ne_interrupted s c.readiness unready
    | broken reached failed foreign => exact reads_ne_interrupted l c failed
    | unshown reached read arranged unwritten => exact text_ne_interrupted _ unwritten
  · rcases op.stops_or_answered files s c with ⟨stage, e, stops⟩ | ⟨bytes, reply, answered⟩
    · rw [(Operation.perform_of_stops stops).1, Except.error.injEq] at ended
      cases stops with
      | request unmade => cases ended
      | compression made unsupported => cases ended
      | credentials made supported secured unusable =>
        have unopened := channelParams_eq_error_iff.2 (.inr ⟨_, supported, secured, unusable⟩)
        exact channelParams_ne_interrupted files s (ended ▸ unopened)
      | connection made opened unready =>
        exact await_ne_interrupted s c.readiness (ended ▸ unready)
      | call made opened ready failed =>
        cases ending : c.operation <;> rw [ending] at failed <;> cases failed <;> cases ended
      | reply made opened ready completed malformed => cases ended
    · obtain ⟨params, performed⟩ := Operation.perform_of_answered answered
      rw [performed] at ended
      cases ended
  · have written : (Command.showVersion.perform files s c).outcome =
        (Output.layout .version (.raw (BuildInfo.toDatum {}))).write.outcome := rfl
    cases text : (Output.layout .version (.raw (BuildInfo.toDatum {}))).text with
    | ok shown =>
      rw [written, (Output.write_of_text text).1] at ended
      cases ended
    | error e =>
      rw [written, Output.write_of_error text] at ended
      cases ended
      exact text_ne_interrupted _ text

theorem dispatch_ne_interrupted (files : Files) (s : Settings) (c : Coordinator)
    (command : Command) : (command.dispatch files s c).outcome ≠ .error .interrupted := by
  rw [Command.outcome_dispatch]
  cases ended : (command.perform files s c).outcome with
  | ok done => simp [Command.judge]
  | error e =>
    cases e with
    | interrupted => exact absurd ended (perform_ne_interrupted files s c command)
    | _ => simp [Command.judge]

theorem finished_ne_exitCode (files : Files) (s : Settings) (c : Coordinator) (command : Command) :
    (command.dispatch files s c).outcome.map Exit.finished ≠ .ok (.finished exitCode) := by
  rw [Command.outcome_dispatch]
  cases (command.perform files s c).outcome with
  | ok done => simp [Command.judge, Except.map, Command.exitOk, exitCode]
  | error e => cases e <;> simp [Command.judge, Except.map, Command.exitFailure, exitCode]

theorem deeds_runCommand (files : Files) (s : Settings) (c : Coordinator) (command : Command) :
    (runCommand files s c command).deeds = (command.dispatch files s c).deeds :=
  (observe_runCommand (fun _ => rfl) files s c command).trans
    (Command.observe_dispatch _ (fun _ => rfl) files s c command).symm

theorem signals_eq_of_deeds {r : Run α} {t : Run β} (same : r.deeds = t.deeds) :
    r.signals = t.signals := by
  rw [Run.signals_eq, Run.signals_eq, Run.countP_deeds fun _ => rfl, same,
    ← Run.countP_deeds fun _ => rfl]

theorem runCommand_of_unsignalled (unsignalled : (runCommand files s c command).signals = 0) :
    (guard (command.dispatch files s c)).outcome = (command.dispatch files s c).outcome ∧
      (runCommand files s c command).outcome =
        (command.dispatch files s c).outcome.map Exit.finished := by
  rw [signals_eq_of_deeds (deeds_runCommand files s c command)] at unsignalled
  have kept := guard_of_unsignalled unsignalled
  have uninterrupted : (guard (command.dispatch files s c)).outcome ≠ .error .interrupted := by
    rw [kept]
    exact dispatch_ne_interrupted files s c command
  refine ⟨kept, ?_⟩
  rw [runCommand_of_uninterrupted uninterrupted, Run.map_eq, kept]

theorem signals_ne_zero_iff : (runCommand files s c command).signals ≠ 0 ↔
    ∃ deeds, Signalled files s c command deeds := by
  constructor
  · intro signal
    by_contra unsignalled
    have none := Run.signals_eq_zero_iff.2 (leaves_perform unsignalled)
    have same : (runCommand files s c command).deeds = (command.perform files s c).deeds :=
      observe_runCommand (fun _ => rfl) files s c command
    exact signal ((signals_eq_of_deeds same).trans none)
  · rintro ⟨deeds, signalled⟩
    obtain ⟨_, _, did, quiet⟩ := runCommand_of_signalled signalled
    rw [(signalled.stoppedCleanly did quiet).one_signal]
    exact Nat.one_ne_zero

theorem finished_exitCode_iff :
    (runCommand files s c command).outcome = .ok (.finished exitCode) ↔
      (runCommand files s c command).signals ≠ 0 := by
  constructor
  · intro finished unsignalled
    rw [(runCommand_of_unsignalled unsignalled).2] at finished
    exact finished_ne_exitCode files s c command finished
  · intro signal
    obtain ⟨deeds, signalled⟩ := signals_ne_zero_iff.1 signal
    exact (runCommand_of_signalled signalled).2.1

theorem start_signals_ne_zero_iff {world : World} {args : List String} :
    (start world c args).run.signals ≠ 0 ↔ ∃ i s files deeds,
      Prepared world args i s files ∧ Signalled files s c i.command deeds := by
  rcases run_start world c args with ⟨i, s, files, prepared, ran⟩ | ⟨outcome, unprepared, ran⟩
  · rw [ran, signals_ne_zero_iff]
    constructor
    · rintro ⟨deeds, signalled⟩
      exact ⟨i, s, files, deeds, prepared, signalled⟩
    · rintro ⟨j, t, others, deeds, also, signalled⟩
      obtain ⟨rfl, rfl, rfl⟩ := prepared.unique also
      exact ⟨deeds, signalled⟩
  · rw [ran]
    constructor
    · intro signal
      exact absurd rfl signal
    · rintro ⟨i, s, files, deeds, prepared, -⟩
      exact (unprepared.not_prepared prepared).elim

theorem start_finished_iff {world : World} {args : List String} :
    (start world c args).run.outcome = .ok (.finished exitCode) ↔
      (start world c args).run.signals ≠ 0 := by
  rcases run_start world c args with ⟨i, s, files, prepared, ran⟩ | ⟨outcome, unprepared, ran⟩
  · rw [ran, finished_exitCode_iff]
  · rw [ran]
    constructor
    · rintro rfl
      cases unprepared
    · intro signal
      exact absurd rfl signal

/-- Wherever a signal finds a command waiting, the command stops there and cleans up; without a
signal, nothing counts as interrupted. -/
theorem interrupts_clean (files : Files) (s : Settings) (c : Coordinator) (command : Command) :
    (∀ deeds, Signalled files s c command deeds →
      (guard (command.dispatch files s c)).outcome = .error .interrupted ∧
      (runCommand files s c command).outcome = .ok (.finished exitCode) ∧
      (runCommand files s c command).deeds = deeds ∧
      StoppedCleanly command (runCommand files s c command)) ∧
    ((runCommand files s c command).signals ≠ 0 ↔
      ∃ deeds, Signalled files s c command deeds) ∧
    ((runCommand files s c command).signals = 0 →
      (guard (command.dispatch files s c)).outcome ≠ .error .interrupted ∧
      (runCommand files s c command).outcome ≠ .ok (.finished exitCode) ∧
      ((command.perform files s c).outcome = .error .cancelled →
        (guard (command.dispatch files s c)).outcome = .error .cancelled ∧
        (runCommand files s c command).outcome = .error .cancelled)) ∧
    ∀ world args,
      ((start world c args).run.signals ≠ 0 ↔ ∃ i s files deeds,
        Prepared world args i s files ∧ Signalled files s c i.command deeds) ∧
      ((start world c args).run.outcome = .ok (.finished exitCode) ↔
        (start world c args).run.signals ≠ 0) := by
  refine ⟨?_, signals_ne_zero_iff, ?_, fun _ _ => ⟨start_signals_ne_zero_iff, start_finished_iff⟩⟩
  · intro deeds signalled
    obtain ⟨interrupted, finished, did, quiet⟩ := runCommand_of_signalled signalled
    exact ⟨interrupted, finished, did, signalled.stoppedCleanly did quiet⟩
  · intro unsignalled
    obtain ⟨kept, ended⟩ := runCommand_of_unsignalled unsignalled
    rw [kept, ended]
    refine ⟨dispatch_ne_interrupted files s c command, finished_ne_exitCode files s c command, ?_⟩
    intro cancelled
    rw [Command.outcome_dispatch, cancelled]
    exact ⟨rfl, rfl⟩

/-- The signal comes after two agents, on a stream whose cancellation fails. -/
theorem interrupts_clean_third_read :
    let c : Coordinator := { clients := {
      items := [[], []], ending := .interrupted, cancelFault := some "cannot cancel" } }
    let run := runCommand (.ofHome "/home") Settings.defaults c .listNodes
    run.outcome = .ok (.finished 130) ∧ run.reads = 3 ∧ StoppedCleanly .listNodes run := by
  intro c run
  have ready : Channel.Ready Settings.defaults c.readiness := ⟨by decide, rfl⟩
  have converted : Stream.Converted Listing.nodes.convert (Listing.nodes.script c).items
      [AgentRecord.ofMessage _, AgentRecord.ofMessage _] := .cons rfl (.cons rfl .nil)
  have signalled : Signalled (.ofHome "/home") Settings.defaults c Listing.nodes.command _ :=
    .reading rfl ready converted rfl
  obtain ⟨stops, -⟩ := interrupts_clean (.ofHome "/home") Settings.defaults c .listNodes
  obtain ⟨_, finished, did, cleanly⟩ := stops _ signalled
  refine ⟨finished, ?_, cleanly⟩
  have reads : run.reads = run.deeds.countP _ := Run.countP_deeds (fun _ => rfl) run
  rw [reads, did]
  rfl

end Interrupt

end BackupConsole
