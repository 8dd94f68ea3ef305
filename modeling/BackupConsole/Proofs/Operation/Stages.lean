import BackupConsole.Proofs.Channel
import BackupConsole.Proofs.Client
import BackupConsole.Proofs.Command.Dispatch
import BackupConsole.Proofs.Request

set_option autoImplicit false

namespace BackupConsole

open Contract (Method Msg)

inductive Operation
  | backup
  | restore
  deriving DecidableEq, Repr

namespace Operation

def command : Operation → Command
  | backup => .runBackup
  | restore => .runRestore

def method : Operation → Method
  | backup => .runBackup
  | restore => .runRestore

def completion : Operation → String
  | backup => "Backup completed"
  | restore => "Restore completed"

def request (s : Settings) : Operation → Except Cause (List UInt8)
  | backup => (BackupRequest.ofSettings s).map fun r => Contract.encode r.toMessage
  | restore => .ok (Contract.encode (RestoreRequest.ofSettings s).toMessage)

def notice (s : Settings) : Operation → LogRecord
  | backup => {
      level := .info
      logger := Client.logger
      event := "Sending RunBackup"
      fields := [("storage", .text s.storageName), ("backup_type", .text (
        ((backupTypeOf? s.backupType).bind fun n => Contract.backupType.label? n.toInt).getD ""))] }
  | restore => {
      level := .info
      logger := Client.logger
      event := "Sending RunRestore"
      fields := [("metadata_file", .text s.restoreMetadataFile),
        ("storage", .text s.storageName)] }

theorem runBackup_eq {s : Settings} {r : BackupRequest} (made : BackupRequest.ofSettings s = .ok r)
    (interceptors : List (Interceptor String)) (c : Coordinator) :
    Client.runBackup interceptors c r.toMessage = (do
      Run.emit (.log (notice s backup))
      Client.operate interceptors c .runBackup (Contract.encode r.toMessage)) := by
  obtain ⟨named, _, _, _, _, stored⟩ := BackupRequest.ofSettings_eq_ok_iff.1 made
  obtain ⟨label, declared⟩ := label?_of_backupTypeOf? named
  simp only [Client.runBackup, BackupRequest.toMessage, notice, named, declared, stored,
    Option.bind_some, Option.getD_some]
  rfl

theorem perform_eq (op : Operation) (files : Files) (s : Settings) (c : Coordinator) :
    op.command.perform files s c = (do
      let bytes ← Run.ofCause (op.request s)
      Channel.withOpen files s c.readiness (fun interceptors => do
        Run.emit (.log (op.notice s))
        Client.operate interceptors c op.method bytes)
      (Output.line op.completion).write) := by
  cases op with
  | restore => rfl
  | backup =>
    simp only [command, Command.perform, request]
    cases made : BackupRequest.ofSettings s with
    | error cause => rfl
    | ok r =>
      simp only [Run.ofCause_bind, Except.map, runBackup_eq made]
      rfl

inductive Stage
  | request
  | compression
  | credentials
  | connection
  | call
  | reply
  deriving DecidableEq, Repr

/-- Where an operation stops short of its answer, and with which failure. -/
inductive Stops (op : Operation) (files : Files) (s : Settings) (c : Coordinator) :
    Stage → Failure → Prop
  | request {cause : Cause} (unmade : op.request s = .error cause) :
      Stops op files s c .request (.refused cause)
  | compression {bytes : List UInt8} {cause : Cause} (made : op.request s = .ok bytes)
      (unsupported : channelCompression s.serverCompressor = .error cause) :
      Stops op files s c .compression (.refused cause)
  | credentials {bytes : List UInt8} {compression : Option Compression} {e : Failure}
      (made : op.request s = .ok bytes)
      (supported : channelCompression s.serverCompressor = .ok compression)
      (secured : s.tls = true) (unusable : loadCertificates files s.tlsCaFile = .error e) :
      Stops op files s c .credentials e
  | connection {bytes : List UInt8} {params : ChannelParams} {e : Failure}
      (made : op.request s = .ok bytes) (opened : channelParams files s = .ok params)
      (unready : (Channel.await s c.readiness).outcome = .error e) :
      Stops op files s c .connection e
  | call {bytes : List UInt8} {params : ChannelParams} {e : Failure}
      (made : op.request s = .ok bytes) (opened : channelParams files s = .ok params)
      (ready : (Channel.await s c.readiness).outcome = .ok ())
      (failed : c.operation.failure? = some e) :
      Stops op files s c .call (Client.told op.method.name e)
  | reply {bytes : List UInt8} {params : ChannelParams} (made : op.request s = .ok bytes)
      (opened : channelParams files s = .ok params)
      (ready : (Channel.await s c.readiness).outcome = .ok ())
      (completed : c.operation = .complete)
      (malformed : Contract.decode .runOperationResponse c.reply = none) :
      Stops op files s c .reply .malformedMessage

structure Answered (op : Operation) (files : Files) (s : Settings) (c : Coordinator)
    (bytes : List UInt8) (reply : Msg .runOperationResponse) : Prop where
  made : op.request s = .ok bytes
  opened : ∃ params, channelParams files s = .ok params
  ready : (Channel.await s c.readiness).outcome = .ok ()
  completed : c.operation = .complete
  decoded : Contract.decode .runOperationResponse c.reply = some reply

theorem stops_or_answered (op : Operation) (files : Files) (s : Settings) (c : Coordinator) :
    (∃ stage e, op.Stops files s c stage e) ∨ ∃ bytes reply, op.Answered files s c bytes reply := by
  -- The cases come in the order of the stages: each is reached only where the ones before succeed.
  cases made : op.request s with
  | error cause => exact .inl ⟨_, _, .request made⟩
  | ok bytes =>
    cases opened : channelParams files s with
    | error e =>
      rcases channelParams_eq_error_iff.1 opened with
        ⟨cause, unsupported, rfl⟩ | ⟨compression, supported, secured, unusable⟩
      · exact .inl ⟨_, _, .compression made unsupported⟩
      · exact .inl ⟨_, _, .credentials made supported secured unusable⟩
    | ok params =>
      cases ready : (Channel.await s c.readiness).outcome with
      | error e => exact .inl ⟨_, _, .connection made opened ready⟩
      | ok done =>
        cases failed : c.operation.failure? with
        | some e => exact .inl ⟨_, _, .call made opened ready failed⟩
        | none =>
          have completed := Stream.failure?_eq_none_iff.1 failed
          cases decoded : Contract.decode .runOperationResponse c.reply with
          | none => exact .inl ⟨_, _, .reply made opened ready completed decoded⟩
          | some reply =>
            exact .inr ⟨bytes, reply, made, ⟨params, opened⟩, ready, completed, decoded⟩

theorem perform_of_made {op : Operation} {s : Settings} {bytes : List UInt8}
    (made : op.request s = .ok bytes) (files : Files) (c : Coordinator) :
    op.command.perform files s c = (do
      Channel.withOpen files s c.readiness (fun interceptors => do
        Run.emit (.log (op.notice s))
        Client.operate interceptors c op.method bytes)
      (Output.line op.completion).write) := by
  rw [perform_eq, made]
  rfl

theorem perform_of_unopened {op : Operation} {files : Files} {s : Settings} {bytes : List UInt8}
    {e : Failure} (made : op.request s = .ok bytes) (unopened : channelParams files s = .error e)
    (c : Coordinator) : op.command.perform files s c = ⟨.error e, []⟩ := by
  rw [perform_of_made made, Channel.withOpen_of_error unopened]
  rfl

theorem perform_of_failed {op : Operation} {files : Files} {s : Settings} {c : Coordinator}
    {bytes : List UInt8} {params : ChannelParams} {e : Failure} (made : op.request s = .ok bytes)
    (opened : channelParams files s = .ok params)
    (ready : (Channel.await s c.readiness).outcome = .ok ())
    (failed : (Client.operate (credentialInterceptors s.apiToken) c op.method bytes).outcome =
      .error e) :
    op.command.perform files s c = ⟨.error e, .opened params :: Channel.connecting s ::
      ((Channel.await s c.readiness).events ++ Channel.connected s :: .log (op.notice s) ::
        ((Client.operate (credentialInterceptors s.apiToken) c op.method bytes).events ++
          [.closed]))⟩ := by
  rw [perform_of_made made, Channel.withOpen_of_ready opened ready]
  simp only [Run.emit_bind, failed]
  rfl

theorem perform_of_stops {op : Operation} {files : Files} {s : Settings} {c : Coordinator}
    {stage : Stage} {e : Failure} (stops : op.Stops files s c stage e) :
    (op.command.perform files s c).outcome = .error e ∧
      (op.command.perform files s c).output = "" := by
  cases stops with
  | request unmade =>
    rw [perform_eq, unmade]
    exact ⟨rfl, rfl⟩
  | compression made unsupported =>
    rw [perform_of_unopened made (channelParams_eq_error_iff.2 (.inl ⟨_, unsupported, rfl⟩))]
    exact ⟨rfl, rfl⟩
  | credentials made supported secured unusable =>
    rw [perform_of_unopened made
      (channelParams_eq_error_iff.2 (.inr ⟨_, supported, secured, unusable⟩))]
    exact ⟨rfl, rfl⟩
  | connection made opened unready =>
    rw [perform_of_made made, Channel.withOpen_of_unready opened unready, Run.bind_of_error rfl]
    refine ⟨rfl, ?_⟩
    simp [Run.output, Channel.connecting, Channel.observe_await]
  | call made opened ready failed =>
    rw [perform_of_failed made opened ready (by rw [Client.operate_of_failure failed]),
      Client.operate_of_failure failed]
    refine ⟨rfl, ?_⟩
    simp [Run.output, Channel.connecting, Channel.connected, Client.announced,
      Channel.observe_await, Stream.observe_act]
  | @reply bytes _ made opened ready completed malformed =>
    have unread : received .runOperationResponse c.reply = .error .malformedMessage := by
      rw [received, malformed]
    have failed : (Client.operate (credentialInterceptors s.apiToken) c op.method bytes).outcome =
        .error .malformedMessage := by
      rw [Client.operate_of_completed completed, unread]
      rfl
    rw [perform_of_failed made opened ready failed, Client.operate_of_completed completed]
    refine ⟨rfl, ?_⟩
    simp [Run.output, Channel.connecting, Channel.connected, Client.announced,
      Channel.observe_await]

theorem perform_of_answered {op : Operation} {files : Files} {s : Settings} {c : Coordinator}
    {bytes : List UInt8} {reply : Msg .runOperationResponse}
    (answered : op.Answered files s c bytes reply) :
    ∃ params, op.command.perform files s c = ⟨.ok (), .opened params :: Channel.connecting s ::
      ((Channel.await s c.readiness).events ++ [Channel.connected s, .log (op.notice s),
        Client.announced .unary op.method,
        .sent (Client.sentCall s.apiToken c.metadata op.method bytes), .closed,
        .wrote (op.completion ++ "\n")])⟩ := by
  obtain ⟨made, ⟨params, opened⟩, ready, completed, decoded⟩ := answered
  have readable : received .runOperationResponse c.reply = .ok reply := by
    rw [received, decoded]
  refine ⟨params, ?_⟩
  rw [perform_of_made made, Channel.withOpen_of_ready opened ready,
    Client.operate_of_completed completed, readable]
  refine Run.ext rfl ?_
  simp [Except.map, bind, Run.bind, Output.write, Run.emit]

end Operation

end BackupConsole
