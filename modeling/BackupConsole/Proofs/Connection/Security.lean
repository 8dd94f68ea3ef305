import BackupConsole.Proofs.Certificates
import BackupConsole.Proofs.Connection.Discipline
import BackupConsole.Proofs.Operation.Report
import BackupConsole.Proofs.Settings.Accepted
import BackupConsole.Proofs.Settings.Sources

set_option autoImplicit false

namespace BackupConsole

open Contract (Method)

theorem channelCompression_of_mem {name : String} (listed : name ∈ Setting.compressors) :
    ∃ compression, channelCompression name = .ok compression := by
  simp only [Setting.compressors, List.mem_cons, List.not_mem_nil, or_false] at listed
  rcases listed with rfl | rfl | rfl | rfl <;> exact ⟨_, rfl⟩

theorem Settings.Made.compression {s : Settings} (made : s.Made) :
    ∃ compression, channelCompression s.serverCompressor = .ok compression :=
  channelCompression_of_mem made.compressor

def Errand.attempt (files : Files) (s : Settings) (c : Coordinator) : Errand → Run Unit
  | command kind => kind.perform files s c
  | names timeout => (fun _ => ()) <$> Completion.fetchNames files s timeout c
  | completion incomplete => (fun _ => ()) <$> Session.offered files s c incomplete

/-- What holds of every connection, for all that the certificates may be. -/
structure Guarded (files : Files) (s : Settings) : Prop where
  secured : s.tls = true → ∀ (e : Errand) c, ∀ params ∈ (e.run files s c).channels,
    ∃ roots, params.roots = some roots ∧ Trusted files s.tlsCaFile roots
  untouched : s.tls = true → (∀ roots, ¬ Trusted files s.tlsCaFile roots) → ∀ (e : Errand) c,
    (e.run files s c).channels = [] ∧ (e.run files s c).calls = []
  plain : ∀ (e : Errand) c, ∀ params ∈ (e.run files s c).channels,
    params.roots = none → s.tls = false
  indifferent : s.tls = false → ∀ (e : Errand) c (other : Files) (file : String),
    e.run other { s with tlsCaFile := file } c = e.run files s c
  supported : ∃ compression, channelCompression s.serverCompressor = .ok compression

def RefusesUntrusted (files : Files) (s : Settings) : Prop :=
  s.tls = true → (∀ roots, ¬ Trusted files s.tlsCaFile roots) →
    ∃ cause : Cause, cause.category = .credentials ∧
      ∀ (e : Errand) c method request, e.Asks s method request →
        e.attempt files s c = .fail (.refused cause)

structure NeverDowngraded (files : Files) (s : Settings) : Prop where
  guarded : Guarded files s
  refuses : RefusesUntrusted files s

variable {files : Files} {s : Settings} {c : Coordinator}

theorem channelParams_roots {params : ChannelParams} (opened : channelParams files s = .ok params) :
    (s.tls = true ∧ ∃ roots, params.roots = some roots ∧ Trusted files s.tlsCaFile roots) ∨
      s.tls = false ∧ params.roots = none := by
  rw [channelParams_eq] at opened
  split at opened
  next => cases opened
  next compression _ =>
    cases secured : s.tls with
    | false =>
      rw [secured] at opened
      cases opened
      exact .inr ⟨rfl, rfl⟩
    | true =>
      rw [secured, if_pos rfl] at opened
      cases loaded : loadCertificates files s.tlsCaFile with
      | error e =>
        rw [loaded] at opened
        cases opened
      | ok roots =>
        rw [loaded] at opened
        cases opened
        exact .inl ⟨rfl, roots, rfl, loadCertificates_eq_ok_iff.1 loaded⟩

theorem uncredentialed_of_untrusted (made : s.Made) (secured : s.tls = true)
    (untrusted : ∀ roots, ¬ Trusted files s.tlsCaFile roots) : ∃ e, Uncredentialed files s e := by
  cases loaded : loadCertificates files s.tlsCaFile with
  | error e => exact ⟨e, made.compression, secured, loaded⟩
  | ok roots => exact absurd (loadCertificates_eq_ok_iff.1 loaded) (untrusted roots)

theorem Channel.withOpen_of_insecure {α : Type} (insecure : s.tls = false) (files other : Files)
    (file : String) (readiness : Readiness) (body : List (Interceptor String) → Run α) :
    withOpen other { s with tlsCaFile := file } readiness body =
      withOpen files s readiness body := by
  have params : channelParams other { s with tlsCaFile := file } = channelParams files s := by
    simp only [channelParams_eq, insecure]
    rfl
  unfold withOpen createChannel
  rw [params]
  rfl

namespace Errand

theorem perform_of_insecure (insecure : s.tls = false) (files other : Files) (file : String)
    (c : Coordinator) (kind : Command) :
    kind.perform other { s with tlsCaFile := file } c = kind.perform files s c := by
  have opening {α : Type} (body : List (Interceptor String) → Run α) :=
    Channel.withOpen_of_insecure insecure files other file c.readiness body
  rcases kind.kinds with ⟨l, rfl⟩ | ⟨op, rfl⟩ | rfl
  · simp only [l.perform_eq, opening]
    rfl
  · simp only [op.perform_eq, opening]
    rfl
  · rfl

theorem fetchNames_of_insecure (insecure : s.tls = false) (files other : Files) (file : String)
    (c : Coordinator) (timeout : Float) :
    Completion.fetchNames other { s with tlsCaFile := file } timeout c =
      Completion.fetchNames files s timeout c := by
  have insecure : ((names timeout).settings s).tls = false := insecure
  unfold Completion.fetchNames
  exact congrArg (· >>= _) (Channel.withOpen_of_insecure insecure files other file _ _)

theorem run_of_insecure (insecure : s.tls = false) (e : Errand) (other : Files) (file : String) :
    e.run other { s with tlsCaFile := file } c = e.run files s c := by
  cases e with
  | command kind =>
    have same := perform_of_insecure insecure files other file c kind
    simp only [run, Command.dispatch, same]
  | names timeout => exact fetchNames_of_insecure insecure files other file c timeout
  | completion incomplete =>
    have same := fetchNames_of_insecure insecure files other file c Completion.defaultTimeout
    simp only [run, Session.offered, same]

theorem fetchNames_of_unopened {failure : Failure}
    (unopened : channelParams files s = .error failure) (timeout : Float) :
    Completion.fetchNames files s timeout c = .fail failure := by
  have unopened : channelParams files ((names timeout).settings s) = .error failure := unopened
  exact congrArg (· >>= _) (Channel.withOpen_of_error unopened c.readiness _)

theorem attempt_of_unopened {e : Errand} {failure : Failure} {method : Method}
    {request : List UInt8} (unopened : channelParams files s = .error failure)
    (asks : e.Asks s method request) : e.attempt files s c = .fail failure := by
  cases e with
  | command kind =>
    have closed {α : Type} (body : List (Interceptor String) → Run α) :=
      Channel.withOpen_of_error unopened c.readiness body
    rcases kind.kinds with ⟨l, rfl⟩ | ⟨op, rfl⟩ | rfl
    · rw [attempt, l.perform_eq, closed]
      rfl
    · have made : op.request s = .ok request := (op.request_command s).symm.trans asks.made
      rw [attempt, op.perform_eq, made, Run.ofCause_bind]
      exact congrArg (· >>= _) (closed _)
    · cases asks.own
  | names timeout =>
    rw [attempt, fetchNames_of_unopened unopened]
    rfl
  | completion incomplete =>
    rw [attempt, Session.offered, fetchNames_of_unopened unopened]
    rfl

theorem untouched_of_unopened {failure : Failure}
    (unopened : channelParams files s = .error failure) (e : Errand) :
    (e.run files s c).channels = [] ∧ (e.run files s c).calls = [] := by
  -- A channel has the parameters that were made for it, and here none are made.
  have none_opened : (e.run files s c).channels = [] := by
    rw [List.eq_nil_iff_forall_not_mem]
    intro params opened
    obtain ⟨own, _⟩ := opens_of_channel opened
    rw [unopened] at own
    cases own
  exact Run.Leaves.untouched ((e.disciplined files s c).unopened none_opened)

end Errand

theorem guarded (made : s.Made) (files : Files) : Guarded files s where
  secured secured e c params opened := by
    obtain ⟨own, _⟩ := Errand.opens_of_channel opened
    rcases channelParams_roots own with ⟨_, trusted⟩ | ⟨insecure, _⟩
    · exact trusted
    · rw [secured] at insecure
      cases insecure
  untouched secured untrusted e c := by
    obtain ⟨failure, failed⟩ := uncredentialed_of_untrusted made secured untrusted
    exact Errand.untouched_of_unopened failed.unopened e
  plain e c params opened bare := by
    obtain ⟨own, _⟩ := Errand.opens_of_channel opened
    rcases channelParams_roots own with ⟨_, roots, held, _⟩ | ⟨insecure, _⟩
    · rw [bare] at held
      cases held
    · exact insecure
  indifferent insecure e c := e.run_of_insecure insecure
  supported := made.compression

theorem refusesUntrusted_iff (made : s.Made) (files : Files) :
    RefusesUntrusted files s ↔
      (s.tls = true → (∀ roots, ¬ Trusted files s.tlsCaFile roots) →
        CertificateNamed files s.tlsCaFile) := by
  refine forall_congr' fun secured => forall_congr' fun untrusted => ?_
  obtain ⟨failure, failed⟩ := uncredentialed_of_untrusted made secured untrusted
  have unopened := failed.unopened
  rw [← loadCertificates_refused_iff failed.2.2]
  constructor
  · rintro ⟨cause, _, refused⟩
    -- Asking for names fails as loading the certificates does.
    have asked := refused (.names 0) {} .backupsMetadata [] ⟨rfl, rfl⟩
    rw [Errand.attempt_of_unopened unopened ⟨rfl, rfl⟩] at asked
    cases asked
    exact ⟨cause, rfl⟩
  · rintro ⟨cause, rfl⟩
    exact ⟨cause, category_of_loadCertificates failed.2.2, fun e c method request asks =>
      Errand.attempt_of_unopened unopened asks⟩

/-- Security is never given up, and who cannot have it is told so unless the path of the
certificates leads nowhere. -/
theorem neverDowngraded_iff (made : s.Made) (files : Files) :
    (NeverDowngraded files s ↔
      (s.tls = true → (∀ roots, ¬ Trusted files s.tlsCaFile roots) →
        CertificateNamed files s.tlsCaFile)) ∧
    Guarded files s := by
  have always := guarded made files
  have refuses := refusesUntrusted_iff made files
  refine ⟨⟨fun never => refuses.1 never.refuses, fun named => ?_⟩, always⟩
  exact { guarded := always, refuses := refuses.2 named }

theorem neverDowngraded_without_file :
    let s := { Settings.defaults with tls := true }
    s.Made ∧ NeverDowngraded (.ofHome "/home") s := by
  intro s
  have checked (k : Setting) : (defaultLayer.set .tls (.bool true)).checked k = .ok (s.get k) := by
    cases k <;> rfl
  have made : s.Made := ⟨_, [], Settings.ofLayer_of_checked checked⟩
  have atHome : ConfigFile.expand (.ofHome "/home") (certificatePath "") =
      .ok ⟨"/", ["home", ".backupctl", "ca.pem"]⟩ := rfl
  have named : CertificateNamed (.ofHome "/home") s.tlsCaFile := ⟨_, atHome, by decide⟩
  exact ⟨made, (neverDowngraded_iff made _).1.2 fun _ _ => named⟩

theorem strangers_certificates_untold :
    Operation.strangersCertificates.Made ∧
      ¬ NeverDowngraded (.ofHome "/home") Operation.strangersCertificates := by
  have checked (k : Setting) : ((defaultLayer.set .tls (.bool true)).set .tlsCaFile
      (.text "~nosuchuser_zz/ca.pem")).checked k =
        .ok (Operation.strangersCertificates.get k) := by
    cases k <;> rfl
  have made : Operation.strangersCertificates.Made :=
    ⟨_, [], Settings.ofLayer_of_checked checked⟩
  refine ⟨made, fun never => ?_⟩
  have untrusted (roots : List UInt8) : ¬ Trusted (.ofHome "/home")
      Operation.strangersCertificates.tlsCaFile roots := by
    rintro ⟨⟨path, expanded, _⟩, _⟩
    cases expanded
  obtain ⟨path, expanded, _⟩ := (refusesUntrusted_iff made _).1 never.refuses rfl untrusted
  cases expanded

end BackupConsole
