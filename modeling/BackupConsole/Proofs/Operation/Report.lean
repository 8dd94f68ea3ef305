import BackupConsole.Proofs.Certificates
import BackupConsole.Proofs.Operation.Stages
import BackupConsole.Proofs.Settings.Defaults

set_option autoImplicit false

namespace BackupConsole.Operation

def TimesOut (op : Operation) (files : Files) (s : Settings) (c : Coordinator) : Prop :=
  (∃ e, op.Stops files s c .connection e) ∧ Channel.Late s c.readiness

def CallFails (op : Operation) (files : Files) (s : Settings) (c : Coordinator) : Prop :=
  (∃ e, op.Stops files s c .call e) ∧ ∃ fault, c.operation = .fails fault

/-- The exit code tells the failure, and nothing else is told on the output. -/
def Reported (run : Run Nat) : Prop :=
  run.outcome = .ok Command.exitFailure ∧ run.output = ""

def Truthful (op : Operation) (files : Files) (s : Settings) (c : Coordinator) : Prop :=
  let run := op.command.dispatch files s c
  run.output ≠ "" ∨ run.outcome = .ok Command.exitOk →
    run.output = op.completion ++ "\n" ∧ run.outcome = .ok Command.exitOk ∧
    ∃ bytes reply, op.Answered files s c bytes reply ∧
      run.calls = [Client.sentCall s.apiToken c.metadata op.method bytes]

structure ReportsFaithfully (op : Operation) (files : Files) (s : Settings) (c : Coordinator) :
    Prop where
  success : op.Truthful files s c
  failure : (∃ e, op.Stops files s c .request e) ∨ (∃ e, op.Stops files s c .credentials e) ∨
    op.TimesOut files s c ∨ op.CallFails files s c → Reported (op.command.dispatch files s c)
  escape : ∀ e, (op.command.dispatch files s c).outcome = .error e →
    (op.command.dispatch files s c).output = ""

variable {op : Operation} {files : Files} {s : Settings} {c : Coordinator}

theorem dispatch_of_stops {stage : Stage} {e : Failure} (stops : op.Stops files s c stage e) :
    (op.command.dispatch files s c).outcome = Command.judge (.error e) ∧
      (op.command.dispatch files s c).output = "" := by
  obtain ⟨outcome, output⟩ := perform_of_stops stops
  rw [Command.outcome_dispatch, Command.output_dispatch, outcome]
  exact ⟨rfl, output⟩

theorem dispatch_of_answered {bytes : List UInt8} {reply : Contract.Msg .runOperationResponse}
    (answered : op.Answered files s c bytes reply) :
    (op.command.dispatch files s c).outcome = .ok Command.exitOk ∧
      (op.command.dispatch files s c).output = op.completion ++ "\n" ∧
      (op.command.dispatch files s c).calls =
        [Client.sentCall s.apiToken c.metadata op.method bytes] := by
  obtain ⟨params, performed⟩ := perform_of_answered answered
  rw [Command.outcome_dispatch, Command.output_dispatch, Command.calls_dispatch, performed]
  refine ⟨rfl, ?_, ?_⟩
  · simp [Run.output, Channel.connecting, Channel.connected, Client.announced,
      Channel.observe_await]
  · simp [Run.calls, Channel.connecting, Channel.connected, Client.announced,
      Channel.observe_await]

theorem judge_error_eq_failure_iff {e : Failure} :
    Command.judge (.error e) = .ok Command.exitFailure ↔ ∃ cause, e = .refused cause := by
  cases e <;> simp [Command.judge]

theorem reported_of_refused {stage : Stage} {cause : Cause}
    (stops : op.Stops files s c stage (.refused cause)) :
    Reported (op.command.dispatch files s c) :=
  dispatch_of_stops stops

theorem reported_of_request {e : Failure} (stops : op.Stops files s c .request e) :
    Reported (op.command.dispatch files s c) := by
  cases stops with
  | request unmade => exact reported_of_refused (.request unmade)

theorem reported_of_timesOut (late : op.TimesOut files s c) :
    Reported (op.command.dispatch files s c) := by
  obtain ⟨⟨e, stops⟩, late⟩ := late
  have awaited := Channel.await_of_late late
  cases stops with
  | connection made opened unready =>
    rw [awaited] at unready
    cases unready
    exact reported_of_refused (.connection made opened (by rw [awaited]; rfl))

theorem reported_of_callFails (failed : op.CallFails files s c) :
    Reported (op.command.dispatch files s c) := by
  obtain ⟨⟨e, stops⟩, fault, failed⟩ := failed
  cases stops with
  | call made opened ready first =>
    rw [failed] at first
    cases first
    exact reported_of_refused (.call made opened ready (by rw [failed]; rfl))

theorem reported_of_credentials_iff {e : Failure} (stops : op.Stops files s c .credentials e) :
    Reported (op.command.dispatch files s c) ↔ CertificateNamed files s.tlsCaFile := by
  obtain ⟨outcome, output⟩ := dispatch_of_stops stops
  cases stops with
  | credentials made supported secured unusable =>
    rw [Reported, outcome, judge_error_eq_failure_iff, loadCertificates_refused_iff unusable]
    exact and_iff_left output

theorem truthful (op : Operation) (files : Files) (s : Settings) (c : Coordinator) :
    op.Truthful files s c := by
  intro success
  rcases op.stops_or_answered files s c with ⟨stage, e, stops⟩ | ⟨bytes, reply, answered⟩
  · obtain ⟨outcome, output⟩ := dispatch_of_stops stops
    rw [outcome, output] at success
    cases e <;> simp [Command.judge, Command.exitOk, Command.exitFailure] at success
  · obtain ⟨outcome, output, calls⟩ := dispatch_of_answered answered
    exact ⟨output, outcome, bytes, reply, answered, calls⟩

theorem silent_of_escape {e : Failure}
    (escaped : (op.command.dispatch files s c).outcome = .error e) :
    (op.command.dispatch files s c).output = "" := by
  rcases op.stops_or_answered files s c with ⟨stage, e, stops⟩ | ⟨bytes, reply, answered⟩
  · exact (dispatch_of_stops stops).2
  · rw [(dispatch_of_answered answered).1] at escaped
    cases escaped

/-- The one failure of these that an operation may leave unreported is that of certificates whose
path leads nowhere. -/
theorem reportsFaithfully_iff (op : Operation) (files : Files) (s : Settings) (c : Coordinator) :
    (op.ReportsFaithfully files s c ↔
      ∀ e, op.Stops files s c .credentials e → CertificateNamed files s.tlsCaFile) ∧
    op.Truthful files s c ∧
    ((∃ e, op.Stops files s c .request e) ∨ op.TimesOut files s c ∨ op.CallFails files s c →
      Reported (op.command.dispatch files s c)) ∧
    ((∃ e, op.Stops files s c .credentials e) ∨
      (∃ e, (op.command.dispatch files s c).outcome = .error e) →
      (op.command.dispatch files s c).output = "") := by
  have told : (∃ e, op.Stops files s c .request e) ∨ op.TimesOut files s c ∨
      op.CallFails files s c → Reported (op.command.dispatch files s c) := by
    rintro (⟨e, stops⟩ | late | failed)
    · exact reported_of_request stops
    · exact reported_of_timesOut late
    · exact reported_of_callFails failed
  refine ⟨⟨?_, ?_⟩, truthful op files s c, told, ?_⟩
  · intro faithful e stops
    exact (reported_of_credentials_iff stops).1 (faithful.failure (.inr (.inl ⟨e, stops⟩)))
  · intro named
    refine ⟨truthful op files s c, ?_, fun e => silent_of_escape⟩
    rintro (request | ⟨e, stops⟩ | late | failed)
    · exact told (.inl request)
    · exact (reported_of_credentials_iff stops).2 (named e stops)
    · exact told (.inr (.inl late))
    · exact told (.inr (.inr failed))
  · rintro (⟨e, stops⟩ | ⟨e, escaped⟩)
    · exact (dispatch_of_stops stops).2
    · exact silent_of_escape escaped

def strangersCertificates : Settings :=
  { Settings.defaults with tls := true, tlsCaFile := "~nosuchuser_zz/ca.pem" }

theorem strangers_certificates_unreported :
    ¬ backup.ReportsFaithfully (.ofHome "/home") strangersCertificates {} := by
  intro faithful
  have supported : channelCompression strangersCertificates.serverCompressor =
      .ok (some .gzip) := rfl
  have stops : backup.Stops (.ofHome "/home") strangersCertificates {} .credentials
      (.raised .other "Could not determine home directory.") := .credentials rfl supported rfl rfl
  have reported := faithful.failure (.inr (.inl ⟨_, stops⟩))
  obtain ⟨path, expanded, _⟩ := (reported_of_credentials_iff stops).1 reported
  cases expanded

end BackupConsole.Operation
