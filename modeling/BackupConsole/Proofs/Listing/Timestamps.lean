import BackupConsole.Proofs.Completion
import BackupConsole.Proofs.Layout.Times
import BackupConsole.Proofs.Listing.Report

set_option autoImplicit false

namespace BackupConsole.Listing

open Contract (Msg)
open Layout (Datable Template)

def messageType : Listing → Contract.MessageType
  | nodes => .client
  | backups => .metadataFile
  | storage => .storageInfo

def ofMessage : (l : Listing) → Msg l.messageType → l.Item
  | nodes => AgentRecord.ofMessage
  | backups => BackupEntry.ofMessage
  | storage => StorageRecord.ofMessage

/-- These are the messages of the stream, which ends well and can be closed. -/
structure Sent (l : Listing) (c : Coordinator) (messages : List (Msg l.messageType)) : Prop where
  decoded : List.Forall₂ (fun bytes m => Contract.decode l.messageType bytes = some m)
    (l.script c).items messages
  ended : (l.script c).ending = .complete
  closed : (l.script c).closeFault? = none

/-- All times that the listing shows can be shown. Agents are listed with a time only if asked for
more of them, and backups once they have ended; of one file name only the last backup is listed. -/
def Dated (s : Settings) : (l : Listing) → List (Msg l.messageType) → Prop
  | nodes, messages => s.verbose = true → ∀ m ∈ messages, Datable (AgentRecord.ofMessage m).lastSeen
  | backups, messages => ∀ f m, Completion.LastSent messages f m →
    0 < (Completion.recordSent m).endTs → Datable (Completion.recordSent m).endTs
  | storage, _ => True

def Undated (s : Settings) : (l : Listing) → l.Collection → Prop
  | nodes, agents => s.verbose = true ∧ ∃ r ∈ agents, ¬ Datable r.lastSeen
  | backups, entries => ∃ entry ∈ entries, 0 < entry.2.endTs ∧ ¬ Datable entry.2.endTs
  | storage, _ => False

variable {l : Listing} {files : Files} {s : Settings} {c : Coordinator}
variable {messages : List (Msg l.messageType)} {e : Failure}

theorem convert_of_decode {bytes : List UInt8} {m : Msg l.messageType}
    (decoded : Contract.decode l.messageType bytes = some m) :
    l.convert bytes = .ok (l.ofMessage m) := by
  have made : received l.messageType bytes = .ok m := by
    rw [received, decoded]
  cases l with
  | nodes => exact congrArg (Except.map AgentRecord.ofMessage) made
  | backups => exact congrArg (Except.map BackupEntry.ofMessage) made
  | storage => exact congrArg (Except.map StorageRecord.ofMessage) made

theorem Sent.reads (sent : l.Sent c messages) : l.Reads c (.ok (messages.map l.ofMessage)) := by
  refine .whole ?_ sent.ended sent.closed
  exact List.forall₂_map_right_iff.2 (sent.decoded.imp fun _ _ => convert_of_decode)

theorem text_eq_error_iff {collection : l.Collection} :
    (l.shown s collection).text = .error e ↔ e = .timestampRange ∧ l.Undated s collection := by
  cases l with
  | nodes =>
    rw [text_nodes, Layout.rowsText_eq_error_iff]
    · rw [Undated, nodesTemplate]
      cases s.verbose with
      | false => simp [Layout.not_times_nodes]
      | true => simp [Layout.times_agent]
    · intro row member
      obtain ⟨r, _, rfl⟩ := List.mem_map.1 member
      apply Layout.fits_agent
      unfold nodesTemplate
      cases s.verbose
      · exact .inl rfl
      · exact .inr rfl
  | backups =>
    by_cases found : collection = []
    · rw [found]
      simp [shown, Output.text, Undated]
    · rw [text_backups found, Layout.rowsText_eq_error_iff]
      · simp [Undated, Layout.mem_sortByLabel, Layout.times_backup]
      · intro row member
        obtain ⟨entry, _, rfl⟩ := List.mem_map.1 (Layout.mem_sortByLabel.1 member)
        exact Layout.fits_backup entry.2
  | storage =>
    rw [text_storage, Layout.rowsText_eq_error_iff]
    · simp [Undated, Layout.not_times_storage]
    · intro row member
      obtain ⟨r, _, rfl⟩ := List.mem_map.1 member
      exact Layout.fits_storage r

theorem mem_of_lastWins {messages : List (Msg .metadataFile)}
    {entries : List (String × BackupRecord)}
    (latest : Stream.LastWins ((messages.map BackupEntry.ofMessage).map fun e =>
      (e.filename, BackupRecord.ofMessage e.metadata)) entries) {f : String} {r : BackupRecord} :
    (f, r) ∈ entries ↔ ∃ m, Completion.LastSent messages f m ∧ r = Completion.recordSent m := by
  have distinct : (entries.map (·.1)).Nodup := by
    rw [latest.keys]
    exact nodup_eraseDups _
  rw [← Mapping.lookup_eq_some_iff_mem distinct, latest.value, List.map_map,
    ← Completion.lastValue?_eq_some_iff]
  rfl

theorem undated_iff {collection : l.Collection}
    (arranged : l.Arranged (messages.map l.ofMessage) collection) :
    l.Undated s collection ↔ ¬ l.Dated s messages := by
  cases arranged with
  | @nodes _ agents sorted =>
    have listed (r : AgentRecord) :
        r ∈ agents ↔ ∃ m ∈ messages, AgentRecord.ofMessage m = r :=
      sorted.perm.mem_iff.trans List.mem_map
    simp [Undated, Dated, listed]
  | backups latest =>
    simp only [Undated, Dated, not_forall]
    constructor
    · rintro ⟨⟨f, r⟩, listed, ended, undatable⟩
      obtain ⟨m, last, rfl⟩ := (mem_of_lastWins latest).1 listed
      exact ⟨f, m, last, ended, undatable⟩
    · rintro ⟨f, m, last, ended, undatable⟩
      exact ⟨(f, _), (mem_of_lastWins latest).2 ⟨m, last, rfl⟩, ended, undatable⟩
  | storage => simp [Undated, Dated]

/-- Nothing that is sent crashes the listing: its text is written, or an error of rendering is told
of, and the exit code is one or the other. -/
structure Withstands (l : Listing) (files : Files) (s : Settings) (c : Coordinator)
    (messages : List (Msg l.messageType)) : Prop where
  rendered : ∀ collection, l.Arranged (messages.map l.ofMessage) collection →
    (∃ text, (l.shown s collection).text = .ok text ∧ Shows s l collection text) ∨
    ∃ cause, (l.shown s collection).text = .error (.refused cause) ∧ cause.category = .render
  exits : (l.command.dispatch files s c).outcome = .ok Command.exitOk ∨
    (l.command.dispatch files s c).outcome = .ok Command.exitFailure

theorem rendered_iff_dated : (∀ collection, l.Arranged (messages.map l.ofMessage) collection →
    (∃ text, (l.shown s collection).text = .ok text ∧ Shows s l collection text) ∨
    ∃ cause, (l.shown s collection).text = .error (.refused cause) ∧ cause.category = .render) ↔
      l.Dated s messages := by
  constructor
  · intro rendered
    by_contra undated
    obtain ⟨collection, _, arranged⟩ := l.arrange_arranged (messages.map l.ofMessage)
    have unwritten : (l.shown s collection).text = .error .timestampRange :=
      text_eq_error_iff.2 ⟨rfl, (undated_iff arranged).2 undated⟩
    rcases rendered collection arranged with ⟨text, written, _⟩ | ⟨cause, told, _⟩
    · cases unwritten.symm.trans written
    · cases unwritten.symm.trans told
  · intro dated collection arranged
    cases written : (l.shown s collection).text with
    | error e => exact absurd dated ((undated_iff arranged).1 (text_eq_error_iff.1 written).2)
    | ok text => exact .inl ⟨text, rfl, shown_text_iff.1 written⟩

theorem dispatch_of_undated (sent : l.Sent c messages)
    (reached : Channel.Reached files s c.readiness) (undated : ¬ l.Dated s messages) :
    (l.command.dispatch files s c).outcome = .error .timestampRange ∧
      (l.command.dispatch files s c).output = "" := by
  obtain ⟨collection, arrange, arranged⟩ := l.arrange_arranged (messages.map l.ofMessage)
  have unwritten : (l.shown s collection).text = .error .timestampRange :=
    text_eq_error_iff.2 ⟨rfl, (undated_iff arranged).2 undated⟩
  have performed := perform_of_read reached sent.reads arrange
  rw [Output.write_of_error unwritten] at performed
  exact dispatch_of_perform performed

theorem dispatch_of_dated (sent : l.Sent c messages)
    (reached : Channel.Reached files s c.readiness) (dated : l.Dated s messages) :
    (l.command.dispatch files s c).outcome = .ok Command.exitOk ∧
      ∃ collection, l.Arranged (messages.map l.ofMessage) collection ∧
        Shows s l collection (l.command.dispatch files s c).output := by
  obtain ⟨collection, arranged, listed⟩ := shown_of_read reached sent.reads
  cases written : (l.shown s collection).text with
  | error e => exact absurd dated ((undated_iff arranged).1 (text_eq_error_iff.1 written).2)
  | ok text =>
    have shows := shown_text_iff.1 written
    obtain ⟨exit, output⟩ := listed text shows
    exact ⟨exit, collection, arranged, output ▸ shows⟩

theorem judge_error_exits_iff : (Command.judge (.error e) = .ok Command.exitOk ∨
    Command.judge (.error e) = .ok Command.exitFailure) ↔ ∃ cause, e = .refused cause := by
  rw [Operation.judge_error_eq_failure_iff, or_iff_right]
  cases e <;> simp [Command.judge, Command.exitOk, Command.exitFailure]

-- Before the stream, only certificates can end the listing with an error that is not told of.
theorem exits_of_unreached (ready : c.readiness.ending = .complete)
    (unreached : ¬ Channel.Reached files s c.readiness)
    (named : ∀ e, Uncredentialed files s e → CertificateNamed files s.tlsCaFile) :
    (l.command.dispatch files s c).outcome = .ok Command.exitOk ∨
      (l.command.dispatch files s c).outcome = .ok Command.exitFailure := by
  cases opened : channelParams files s with
  | error e =>
    rw [(dispatch_of_perform (perform_of_unopened opened)).1, judge_error_exits_iff]
    rcases channelParams_eq_error_iff.1 opened with
      ⟨cause, _, told⟩ | ⟨compression, supported, secured, unloaded⟩
    · exact ⟨cause, told⟩
    · exact (loadCertificates_refused_iff unloaded).2
        (named e ⟨⟨compression, supported⟩, secured, unloaded⟩)
  | ok params =>
    have late : Channel.Late s c.readiness := by
      refine .inl (Bool.eq_false_iff.2 fun outlasted => ?_)
      exact unreached ⟨⟨params, opened⟩, outlasted, ready⟩
    exact .inr (reported_of_late ⟨params, opened⟩ late).1

/-- Whatever messages a ready coordinator sends, a listing withstands them exactly if they have no
time to show beyond the years 1 to 9999, unless it does not even get to them for its certificates.
A time beyond these is the one thing that cannot be rendered, and its error goes through. -/
theorem withstands_iff (sent : l.Sent c messages) (ready : c.readiness.ending = .complete) :
    (l.Withstands files s c messages ↔ l.Dated s messages ∧
      ∀ e, Uncredentialed files s e → CertificateNamed files s.tlsCaFile) ∧
    (∀ collection e, l.Arranged (messages.map l.ofMessage) collection →
      ((l.shown s collection).text = .error e ↔ e = .timestampRange ∧ ¬ l.Dated s messages)) ∧
    (Channel.Reached files s c.readiness → ¬ l.Dated s messages →
      (l.command.dispatch files s c).outcome = .error .timestampRange ∧
        (l.command.dispatch files s c).output = "") ∧
    (Channel.Reached files s c.readiness → l.Dated s messages →
      (l.command.dispatch files s c).outcome = .ok Command.exitOk ∧
        ∃ collection, l.Arranged (messages.map l.ofMessage) collection ∧
          Shows s l collection (l.command.dispatch files s c).output) := by
  refine ⟨⟨?_, ?_⟩, ?_, dispatch_of_undated sent, dispatch_of_dated sent⟩
  · intro withstands
    refine ⟨rendered_iff_dated.1 withstands.rendered, fun e failed => ?_⟩
    obtain ⟨exit, _⟩ := dispatch_of_perform (perform_of_unopened (l := l) (c := c) failed.unopened)
    have exits := withstands.exits
    rw [exit, judge_error_exits_iff] at exits
    exact (loadCertificates_refused_iff failed.2.2).1 exits
  · rintro ⟨dated, named⟩
    refine ⟨rendered_iff_dated.2 dated, ?_⟩
    by_cases reached : Channel.Reached files s c.readiness
    · exact .inl (dispatch_of_dated sent reached dated).1
    · exact exits_of_unreached ready reached named
  · intro collection e arranged
    rw [text_eq_error_iff, undated_iff arranged]

def distantAgent : Msg .client := ("", "", "", "", "", "", "", 0, 4611686018427387904, ())

def distantAgents : Coordinator where
  clients := { items := [Contract.encode (t := .client) distantAgent] }

theorem sent_distantAgents : nodes.Sent distantAgents [distantAgent] := by
  have fits : ∀ raw ∈ Wire.Message.give Contract.MessageType.client.fields distantAgent,
      raw.Fits := by decide
  have decoded : Contract.decode .client (Contract.encode (t := .client) distantAgent) =
      some distantAgent := Contract.decode_encode.2 ⟨rfl, fits⟩
  exact ⟨.cons decoded .nil, rfl, rfl⟩

theorem distant_agent_withstood :
    nodes.Sent distantAgents [distantAgent] ∧ distantAgents.readiness.ending = .complete ∧
      nodes.Withstands (.ofHome "/home") Settings.defaults distantAgents [distantAgent] := by
  refine ⟨sent_distantAgents, rfl, ?_⟩
  refine (withstands_iff sent_distantAgents rfl).1.2 ⟨?_, ?_⟩
  · intro verbose
    cases verbose
  · rintro e ⟨_, secured, _⟩
    cases secured

theorem distant_agent_not_withstood : ¬ nodes.Withstands (.ofHome "/home")
    { Settings.defaults with verbose := true } distantAgents [distantAgent] := by
  intro withstands
  have datable : Datable 4611686018427387904 :=
    rendered_iff_dated.1 withstands.rendered rfl distantAgent List.mem_cons_self
  unfold Datable at datable
  omega

end BackupConsole.Listing
