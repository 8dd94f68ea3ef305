import BackupConsole.Proofs.Listing.Outcome
import BackupConsole.Proofs.Operation.Report

set_option autoImplicit false

namespace BackupConsole

theorem Command.heard_tagged (command : Command) (events : List Event) :
    (events.map command.tagged).filter Event.isLoud =
      (events.filter Event.isLoud).map command.tagged := by
  rw [List.filter_map]
  congr 1
  refine List.filter_congr fun event _ => ?_
  cases event <;> rfl

namespace Listing

/-- The call of the stream fails after items that all convert, or the stream is read to its end and
cannot be closed. -/
def Unreadable (l : Listing) (c : Coordinator) : Prop :=
  (∃ fault, Stream.FailsFirst l.convert (l.script c).items (l.script c).ending (.rpc fault)) ∨
  ∃ items text, Stream.Converted l.convert (l.script c).items items ∧
    (l.script c).ending = .complete ∧ (l.script c).closeFault? = some text

structure ListsWhole (l : Listing) (files : Files) (s : Settings) (c : Coordinator) : Prop where
  whole : (l.command.dispatch files s c).output ≠ "" →
    (l.command.dispatch files s c).outcome = .ok Command.exitOk ∧
    ∃ items collection, l.Reads c (.ok items) ∧ l.Arranged items collection ∧
      Shows s l collection (l.command.dispatch files s c).output
  shown : Channel.Reached files s c.readiness → ∀ items, l.Reads c (.ok items) →
    ∃ collection, l.Arranged items collection ∧ ∀ text, Shows s l collection text →
      (l.command.dispatch files s c).outcome = .ok Command.exitOk ∧
      (l.command.dispatch files s c).output = text
  unreadable : Channel.Reached files s c.readiness → l.Unreadable c →
    (l.command.dispatch files s c).outcome = .ok Command.exitOk ∧
    (l.command.dispatch files s c).output = "" ∧
    ∃ record, (l.command.dispatch files s c).errors = [record] ∧
      ("code", .text "RPC_STREAM_FAILED") ∈ record.fields
  late : (∃ params, channelParams files s = .ok params) → Channel.Late s c.readiness →
    Operation.Reported (l.command.dispatch files s c)

structure ListsFaithfully (l : Listing) (files : Files) (s : Settings) (c : Coordinator) :
    Prop where
  lists : l.ListsWhole files s c
  credentials : (∃ e, Uncredentialed files s e) → Operation.Reported (l.command.dispatch files s c)

variable {l : Listing} {files : Files} {s : Settings} {c : Coordinator}

theorem reads_of_unreadable (unreadable : l.Unreadable c) :
    ∃ cause, l.Reads c (.error (.refused cause)) := by
  rcases unreadable with ⟨fault, first⟩ | ⟨items, text, converted, ended, unclosed⟩
  · exact ⟨_, .broken first⟩
  · exact ⟨_, .unclosed converted ended unclosed⟩

theorem dispatch_of_perform {outcome : Except Failure Unit} {heard : List Event}
    (performed : (l.command.perform files s c).outcome = outcome ∧
      (l.command.perform files s c).heard = heard) :
    (l.command.dispatch files s c).outcome = Command.judge outcome ∧
      (l.command.dispatch files s c).output = String.join (heard.filterMap Event.text?) := by
  obtain ⟨rfl, rfl⟩ := performed
  rw [Command.outcome_dispatch, Command.output_dispatch, Run.output_eq_heard]
  exact ⟨rfl, rfl⟩

theorem errors_dispatch {heard : List Event}
    (performed : (l.command.perform files s c).outcome = .ok () ∧
      (l.command.perform files s c).heard = heard) :
    (l.command.dispatch files s c).errors =
      (heard.map l.command.tagged).filterMap Event.record? := by
  obtain ⟨outcome, rfl⟩ := performed
  rw [Run.errors_eq_heard, Command.dispatch_of_ok outcome, Run.heard, Command.heard_tagged]
  rfl

theorem whole_of_output (l : Listing) (files : Files) (s : Settings) (c : Coordinator)
    (written : (l.command.dispatch files s c).output ≠ "") :
    (l.command.dispatch files s c).outcome = .ok Command.exitOk ∧
    ∃ items collection, l.Reads c (.ok items) ∧ l.Arranged items collection ∧
      Shows s l collection (l.command.dispatch files s c).output := by
  have ends := l.ends files s c
  generalize performed : (l.command.perform files s c).outcome = outcome at ends
  generalize told : (l.command.perform files s c).heard = heard at ends
  obtain ⟨exit, output⟩ := dispatch_of_perform ⟨performed, told⟩
  rw [output] at written
  rw [exit, output]
  -- Of all the ends that a listing can come to, one has output.
  cases ends with
  | shown reached read arranged shows =>
    refine ⟨rfl, _, _, read, arranged, ?_⟩
    simpa [Event.text?] using shows
  | _ => exact absurd rfl written

theorem shown_of_read (reached : Channel.Reached files s c.readiness) {items : List l.Item}
    (read : l.Reads c (.ok items)) :
    ∃ collection, l.Arranged items collection ∧ ∀ text, Shows s l collection text →
      (l.command.dispatch files s c).outcome = .ok Command.exitOk ∧
      (l.command.dispatch files s c).output = text := by
  obtain ⟨collection, arrange, arranged⟩ := l.arrange_arranged items
  refine ⟨collection, arranged, fun text shows => ?_⟩
  have performed := perform_of_read reached read arrange
  obtain ⟨written, heard⟩ := Output.write_of_text (shown_text_iff.2 shows)
  rw [written, heard] at performed
  obtain ⟨exit, output⟩ := dispatch_of_perform performed
  exact ⟨exit, by simpa [Event.text?] using output⟩

theorem told_of_unreadable (reached : Channel.Reached files s c.readiness)
    (unreadable : l.Unreadable c) :
    (l.command.dispatch files s c).outcome = .ok Command.exitOk ∧
    (l.command.dispatch files s c).output = "" ∧
    ∃ record, (l.command.dispatch files s c).errors = [record] ∧
      ("code", .text "RPC_STREAM_FAILED") ∈ record.fields := by
  obtain ⟨cause, failed⟩ := reads_of_unreadable unreadable
  have performed := perform_of_unread reached failed
  obtain ⟨exit, output⟩ := dispatch_of_perform performed
  have code : cause.code = "RPC_STREAM_FAILED" := by
    rw [Cause.code, category_of_reads failed]
    rfl
  refine ⟨exit, output, _, errors_dispatch performed, ?_⟩
  simp [report, code]

theorem reported_of_perform {cause : Cause}
    (performed : (l.command.perform files s c).outcome = .error (.refused cause) ∧
      (l.command.perform files s c).heard = []) :
    Operation.Reported (l.command.dispatch files s c) :=
  dispatch_of_perform performed

theorem reported_of_late (opened : ∃ params, channelParams files s = .ok params)
    (late : Channel.Late s c.readiness) :
    Operation.Reported (l.command.dispatch files s c) := by
  obtain ⟨params, opened⟩ := opened
  have unready : (Channel.await s c.readiness).outcome =
      .error (.refused (.unreachable s.serverAddress s.connectTimeout)) := by
    rw [Channel.await_of_late late]
    rfl
  exact reported_of_perform (perform_of_unready opened unready)

theorem listsWhole (l : Listing) (files : Files) (s : Settings) (c : Coordinator) :
    l.ListsWhole files s c where
  whole := l.whole_of_output files s c
  shown reached _ := shown_of_read reached
  unreadable := told_of_unreadable
  late := reported_of_late

theorem reported_of_credentials_iff {e : Failure} (failed : Uncredentialed files s e) :
    Operation.Reported (l.command.dispatch files s c) ↔ CertificateNamed files s.tlsCaFile := by
  have performed := perform_of_unopened (l := l) (c := c) failed.unopened
  obtain ⟨exit, output⟩ := dispatch_of_perform performed
  rw [Operation.Reported, exit, Operation.judge_error_eq_failure_iff,
    loadCertificates_refused_iff failed.2.2]
  exact and_iff_left output

/-- A listing is complete or absent, whatever its stream does, and tells of every failure to connect
unless the path of the certificates leads nowhere. -/
theorem listsFaithfully_iff (l : Listing) (files : Files) (s : Settings) (c : Coordinator) :
    (l.ListsFaithfully files s c ↔
      ∀ e, Uncredentialed files s e → CertificateNamed files s.tlsCaFile) ∧
    l.ListsWhole files s c ∧
    ∀ e, Uncredentialed files s e → (l.command.dispatch files s c).output = "" := by
  refine ⟨⟨?_, ?_⟩, l.listsWhole files s c, ?_⟩
  · intro faithful e failed
    exact (reported_of_credentials_iff failed).1 (faithful.credentials ⟨e, failed⟩)
  · intro named
    refine ⟨l.listsWhole files s c, ?_⟩
    rintro ⟨e, failed⟩
    exact (reported_of_credentials_iff failed).2 (named e failed)
  · intro e failed
    exact (dispatch_of_perform (perform_of_unopened failed.unopened)).2

theorem strangers_certificates_unlisted :
    ¬ nodes.ListsFaithfully (.ofHome "/home") Operation.strangersCertificates {} := by
  intro faithful
  have failed : Uncredentialed (.ofHome "/home") Operation.strangersCertificates
      (.raised .other "Could not determine home directory.") := ⟨⟨some .gzip, rfl⟩, rfl, rfl⟩
  obtain ⟨path, expanded, _⟩ :=
    (reported_of_credentials_iff failed).1 (faithful.credentials ⟨_, failed⟩)
  cases expanded

end Listing

end BackupConsole
