import BackupConsole.Channel
import BackupConsole.Proofs.Stream.Drain

set_option autoImplicit false

namespace BackupConsole

theorem channelParams_eq (files : Files) (s : Settings) :
    channelParams files s = match channelCompression s.serverCompressor with
      | .error cause => .error (.refused cause)
      | .ok compression =>
        let params (roots : Option (List UInt8)) : ChannelParams :=
          { target := s.serverAddress, compression, roots, shapes := [.unary, .stream] }
        if s.tls then (loadCertificates files s.tlsCaFile).map fun roots => params (some roots)
        else .ok (params none) := by
  unfold channelParams
  cases channelCompression s.serverCompressor with
  | error cause => rfl
  | ok compression =>
    cases s.tls with
    | false => rfl
    | true => cases loadCertificates files s.tlsCaFile <;> rfl

theorem channelParams_eq_error_iff {files : Files} {s : Settings} {e : Failure} :
    channelParams files s = .error e ↔
      (∃ cause, channelCompression s.serverCompressor = .error cause ∧ e = .refused cause) ∨
      ∃ compression, channelCompression s.serverCompressor = .ok compression ∧ s.tls = true ∧
        loadCertificates files s.tlsCaFile = .error e := by
  rw [channelParams_eq]
  cases channelCompression s.serverCompressor with
  | error cause => simp [@eq_comm _ e]
  | ok compression =>
    cases s.tls with
    | false => simp
    | true => cases loadCertificates files s.tlsCaFile <;> simp [Except.map]

namespace Channel

variable {α : Type}

def connecting (s : Settings) : Event := .log {
  level := .debug
  logger := logger
  event := "Connecting to backup coordinator"
  fields := [("address", .text s.serverAddress), ("tls", .bool s.tls),
    ("compressor", .text s.serverCompressor)] }

def connected (s : Settings) : Event := .log {
  level := .debug
  logger := logger
  event := "Connected to backup coordinator"
  fields := [("address", .text s.serverAddress)] }

theorem createChannel_eq {files : Files} {s : Settings} {params : ChannelParams}
    (opened : channelParams files s = .ok params) :
    createChannel files s = .ok ⟨params, credentialInterceptors s.apiToken⟩ := by
  rw [createChannel, opened]
  rfl

theorem withOpen_of_error {files : Files} {s : Settings} {e : Failure}
    (unopened : channelParams files s = .error e) (readiness : Readiness)
    (body : List (Interceptor String) → Run α) :
    withOpen files s readiness body = ⟨.error e, []⟩ := by
  rw [withOpen, createChannel, unopened]
  rfl

theorem withOpen_of_unready {files : Files} {s : Settings} {params : ChannelParams}
    {readiness : Readiness} {e : Failure} (opened : channelParams files s = .ok params)
    (unready : (await s readiness).outcome = .error e)
    (body : List (Interceptor String) → Run α) :
    withOpen files s readiness body = ⟨.error e,
      .opened params :: connecting s :: ((await s readiness).events ++ [.closed])⟩ := by
  simp only [withOpen, use, createChannel_eq opened, Run.ofExcept_bind, Run.emit_bind, Run.log_bind,
    Run.bind_of_error unready, Run.andFinally]
  rfl

theorem withOpen_of_ready {files : Files} {s : Settings} {params : ChannelParams}
    {readiness : Readiness} (opened : channelParams files s = .ok params)
    (ready : (await s readiness).outcome = .ok ()) (body : List (Interceptor String) → Run α) :
    withOpen files s readiness body = ⟨(body (credentialInterceptors s.apiToken)).outcome,
      .opened params :: connecting s :: ((await s readiness).events ++
        connected s :: ((body (credentialInterceptors s.apiToken)).events ++ [.closed]))⟩ := by
  simp only [withOpen, use, createChannel_eq opened, Run.ofExcept_bind, Run.emit_bind, Run.log_bind,
    Run.bind_of_ok ready, Run.andFinally]
  rw [List.cons_append, List.append_assoc]
  rfl

/-- The channel does not become ready in time: the wait for it is given up, or ends in a time-out
of its own. -/
def Late (s : Settings) (readiness : Readiness) : Prop :=
  (Patience.ofSeconds s.connectTimeout).outlasts readiness.prompt readiness.ending = false ∨
    ∃ text, readiness.ending = .breaks .timeout text

theorem await_of_late {s : Settings} {readiness : Readiness} (late : Late s readiness) :
    await s readiness = .fail (.refused (.unreachable s.serverAddress s.connectTimeout)) := by
  unfold await
  split
  next outlasted =>
    obtain given_up | ⟨text, timedOut⟩ := late
    · simp [outlasted] at given_up
    · rw [timedOut]
      rfl
  next => rfl

theorem await_of_timely {s : Settings} {readiness : Readiness} (timely : ¬ Late s readiness) :
    await s readiness = readiness.ending.act := by
  obtain ⟨outlasted, punctual⟩ := not_or.1 timely
  unfold await
  rw [if_pos (Bool.not_eq_false _ ▸ outlasted)]
  cases ending : readiness.ending with
  | breaks kind text =>
    cases kind with
    | timeout => exact absurd ⟨text, ending⟩ punctual
    | other | system => rfl
  | complete | fails | blocked | interrupted => rfl

theorem observe_await {γ : Type} (pick : Event → Option γ) (waited : pick .waited = none)
    (signal : pick .signal = none) (s : Settings) (readiness : Readiness) :
    (await s readiness).events.filterMap pick = [] := by
  by_cases late : Late s readiness
  · rw [await_of_late late]
    rfl
  · rw [await_of_timely late]
    exact Stream.observe_act pick waited signal readiness.ending

end Channel

end BackupConsole
