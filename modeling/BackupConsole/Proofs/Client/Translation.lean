import BackupConsole.Proofs.Client
import BackupConsole.Proofs.Connection.Course
import BackupConsole.Proofs.Listing.Outcome

set_option autoImplicit false

namespace BackupConsole

open Contract (Method Msg)

namespace Client

inductive Task
  | list (l : Listing)
  | backup (params : Msg .runBackupParams)
  | restore (params : Msg .runRestoreParams)

namespace Task

def run (token : String) (c : Coordinator) : Task → Run Unit
  | list .nodes => (fun _ => ()) <$> connectedAgents (credentialInterceptors token) c
  | list .backups => (fun _ => ()) <$> availableBackups (credentialInterceptors token) c
  | list .storage => (fun _ => ()) <$> storages (credentialInterceptors token) c
  | backup params => runBackup (credentialInterceptors token) c params
  | restore params => runRestore (credentialInterceptors token) c params

def method : Task → Method
  | list l => l.method
  | backup _ => .runBackup
  | restore _ => .runRestore

def shape : Task → CallShape
  | list _ => .stream
  | backup _ => .unary
  | restore _ => .unary

def request : Task → List UInt8
  | list _ => []
  | backup params => Contract.encode params
  | restore params => Contract.encode params

def declared : Task → Bool
  | backup (backupType, _) => (Contract.backupType.label? (Int32.toInt backupType)).isSome
  | _ => true

def lead : Task → String
  | list .nodes => "Cannot get the list of connected agents"
  | list .backups => "Cannot get the list of available backups"
  | list .storage => "Cannot get the list of remote storage"
  | backup _ => "Cannot send the RunBackup command to the coordinator"
  | restore _ => "Cannot send the RunRestore command to the coordinator"

def category : Task → Category
  | list _ => .stream
  | backup _ => .remoteCall
  | restore _ => .remoteCall

def cause (fault : RpcFault) : Task → Cause
  | list l => .streamFailed l.subject fault
  | backup _ => .callFailed "RunBackup" fault
  | restore _ => .callFailed "RunRestore" fault

/-- What a task meets first, at whichever read of its stream or in place of an answer. -/
inductive Meets (c : Coordinator) : Task → Failure → Prop
  | read {l : Listing} {e : Failure}
      (first : Stream.FailsFirst l.convert (l.script c).items (l.script c).ending e) :
      Meets c (list l) e
  | undeclared {task : Task} (nameless : task.declared = false) : Meets c task (.badValue none)
  | failed {task : Task} {e : Failure} (named : task.declared = true) (unary : task.shape = .unary)
      (failed : c.operation.failure? = some e) : Meets c task e
  | unreadable {task : Task} (named : task.declared = true) (unary : task.shape = .unary)
      (completed : c.operation = .complete)
      (undecoded : Contract.decode .runOperationResponse c.reply = none) :
      Meets c task .malformedMessage

inductive Fails (c : Coordinator) (task : Task) : Failure → Prop
  | translated {fault : RpcFault} (meets : task.Meets c (.rpc fault)) :
      Fails c task (.refused (task.cause fault))
  | passed {e : Failure} (meets : task.Meets c e) (foreign : ∀ fault, e ≠ .rpc fault) :
      Fails c task e
  -- This is no error of the remote side: the stream was read to its end.
  | unclosed {l : Listing} {bs : List l.Item} {text : String} (own : task = list l)
      (converted : Stream.Converted l.convert (l.script c).items bs)
      (ended : (l.script c).ending = .complete) (fault : (l.script c).closeFault? = some text) :
      Fails c task (.refused (.streamUnclosed l.subject text))

/-- The status is that of the error, if it has one, and the message is the lead of the task and the
first that says something: the details, the text of the error, or that nothing is known. -/
structure Translates (task : Task) (fault : RpcFault) (report : Report) : Prop where
  category : report.category = task.category
  status : report.status = fault.code
  message : ∃ text, [fault.details.getD "", fault.text, "unknown error"].find? (· != "") =
    some text ∧ text ≠ "" ∧ report.message = task.lead ++ ": " ++ text

theorem find?_describe (fault : RpcFault) :
    [fault.details.getD "", fault.text, "unknown error"].find? (· != "") = some fault.describe := by
  unfold RpcFault.describe
  cases fault.details with
  | none => by_cases silent : fault.text = "" <;> simp [silent]
  | some details =>
    by_cases empty : details = "" <;> by_cases silent : fault.text = "" <;> simp [empty, silent]

theorem translates_cause (task : Task) (fault : RpcFault) :
    task.Translates fault (task.cause fault).report := by
  have said := find?_describe fault
  have nonempty := fault.describe_ne_empty
  match task with
  | list .nodes => exact ⟨rfl, rfl, _, said, nonempty, rfl⟩
  | list .backups => exact ⟨rfl, rfl, _, said, nonempty, rfl⟩
  | list .storage => exact ⟨rfl, rfl, _, said, nonempty, rfl⟩
  | backup _ => exact ⟨rfl, rfl, _, said, nonempty, rfl⟩
  | restore _ => exact ⟨rfl, rfl, _, said, nonempty, rfl⟩

variable {task : Task} {token : String} {c : Coordinator} {e : Failure}

theorem run_list_eq (l : Listing) (token : String) (c : Coordinator) :
    (list l).run token c = (fun _ => ()) <$> l.collected (credentialInterceptors token) c := by
  cases l with
  | nodes => rfl
  | backups => rfl
  | storage => rw [run, Listing.storages_eq]

theorem meets_list_iff {l : Listing} : (list l).Meets c e ↔
    Stream.FailsFirst l.convert (l.script c).items (l.script c).ending e := by
  constructor
  · intro meets
    cases meets with
    | read first => exact first
    | undeclared nameless => cases nameless
    | failed named unary failed => cases unary
    | unreadable named unary completed undecoded => cases unary
  · exact .read

theorem rpc_or_foreign (e : Failure) : (∃ fault, e = .rpc fault) ∨ ∀ fault, e ≠ .rpc fault := by
  cases e with
  | rpc fault => exact .inl ⟨fault, rfl⟩
  | _ => exact .inr nofun

theorem told_of_foreign (foreign : ∀ fault, e ≠ .rpc fault) (name : String) :
    Stream.told name e = e ∧ Client.told name e = e := by
  cases e with
  | rpc fault => exact absurd rfl (foreign fault)
  | _ => exact ⟨rfl, rfl⟩

theorem fails_list_iff {l : Listing} :
    (list l).Fails c e ↔ Stream.Drained l.subject l.convert (l.script c) (.error e) := by
  constructor
  · intro fails
    cases fails with
    | translated meets => exact .broken (meets_list_iff.1 meets)
    | passed meets foreign =>
      have unchanged := (told_of_foreign foreign l.subject).1
      exact unchanged ▸ .broken (meets_list_iff.1 meets)
    | unclosed own converted ended fault =>
      cases own
      exact .unclosed converted ended fault
  · intro drained
    generalize same : (Except.error e : Except Failure (List l.Item)) = outcome at drained
    cases drained with
    | whole converted ended closed => cases same
    | unclosed converted ended fault =>
      cases same
      exact .unclosed rfl converted ended fault
    | @broken first met =>
      cases same
      rcases rpc_or_foreign first with ⟨fault, rfl⟩ | foreign
      · exact .translated (.read met)
      · rw [(told_of_foreign foreign l.subject).1]
        exact .passed (.read met) foreign

theorem outcome_list_eq_error_iff {l : Listing} :
    ((list l).run token c).outcome = .error e ↔ (list l).Fails c e := by
  rw [fails_list_iff, run_list_eq, Run.map_eq, Listing.outcome_collected,
    ← Stream.outcome_drain_iff]
  change ((l.drained c).outcome >>= l.arrange).map _ = _ ↔ (l.drained c).outcome = _
  cases (l.drained c).outcome with
  | error first => simp [bind, Except.bind, Except.map]
  | ok items =>
    -- Whatever was read can be arranged.
    obtain ⟨collection, arrange, _⟩ := l.arrange_arranged items
    simp [bind, Except.bind, Except.map, arrange]

theorem run_undeclared (nameless : task.declared = false) :
    task.run token c = .fail (.badValue none) := by
  cases task with
  | list l => cases nameless
  | restore params => cases nameless
  | backup params =>
    obtain ⟨backupType, _⟩ := params
    have unnamed := Option.isSome_eq_false_iff.1 nameless
    simp only [run, runBackup, Option.isNone_iff_eq_none.1 unnamed]

theorem run_declared (named : task.declared = true) (unary : task.shape = .unary)
    (token : String) (c : Coordinator) :
    let r := operate (credentialInterceptors token) c task.method task.request
    ∃ note, task.run token c = ⟨r.outcome, .log note :: r.events⟩ := by
  cases task with
  | list l => cases unary
  | restore params => exact ⟨_, rfl⟩
  | backup params =>
    obtain ⟨backupType, compressionType, cypher, description, storageName, rest⟩ := params
    obtain ⟨label, found⟩ := Option.isSome_iff_exists.1 named
    simp only [run, runBackup, found]
    exact ⟨_, rfl⟩

theorem cause_of_unary (unary : task.shape = .unary) (fault : RpcFault) :
    task.cause fault = .callFailed task.method.name fault := by
  cases task with
  | list l => cases unary
  | backup params => rfl
  | restore params => rfl

theorem fails_unary_iff (named : task.declared = true) (unary : task.shape = .unary) :
    task.Fails c e ↔
      (∃ met, c.operation.failure? = some met ∧ e = Client.told task.method.name met) ∨
      c.operation = .complete ∧ Contract.decode .runOperationResponse c.reply = none ∧
        e = .malformedMessage := by
  constructor
  · intro fails
    cases fails with
    | @translated fault meets =>
      rw [cause_of_unary unary]
      cases meets with
      | read first => cases unary
      | failed _ _ failed => exact .inl ⟨_, failed, rfl⟩
    | passed meets foreign =>
      cases meets with
      | read first => cases unary
      | undeclared nameless => cases named.symm.trans nameless
      | failed _ _ failed => exact .inl ⟨_, failed, (told_of_foreign foreign _).2.symm⟩
      | unreadable _ _ completed undecoded => exact .inr ⟨completed, undecoded, rfl⟩
    | unclosed own => cases own ▸ unary
  · rintro (⟨met, failed, rfl⟩ | ⟨completed, undecoded, rfl⟩)
    · rcases rpc_or_foreign met with ⟨fault, rfl⟩ | foreign
      · rw [Client.told, ← cause_of_unary unary]
        exact .translated (.failed named unary failed)
      · rw [(told_of_foreign foreign _).2]
        exact .passed (.failed named unary failed) foreign
    · refine .passed (.unreadable named unary completed undecoded) fun fault same => ?_
      cases same

theorem outcome_unary_eq_error_iff (named : task.declared = true) (unary : task.shape = .unary) :
    (task.run token c).outcome = .error e ↔ task.Fails c e := by
  obtain ⟨note, ran⟩ := run_declared named unary token c
  rw [ran, fails_unary_iff named unary]
  change (operate (credentialInterceptors token) c task.method task.request).outcome = _ ↔ _
  cases failed : c.operation.failure? with
  | some met =>
    have broken : c.operation ≠ .complete := by
      intro completed
      cases completed ▸ failed
    simp [operate_of_failure failed, broken, eq_comm]
  | none =>
    -- Only what a completed call has sent back is decoded.
    have completed := Stream.failure?_eq_none_iff.1 failed
    rw [operate_of_completed completed, received]
    cases Contract.decode .runOperationResponse c.reply <;> simp [completed, Except.map, eq_comm]

theorem fails_of_undeclared (nameless : task.declared = false) :
    task.Fails c e ↔ e = .badValue none := by
  have met {first : Failure} (meets : task.Meets c first) : first = .badValue none := by
    cases meets with
    | read first => cases nameless
    | undeclared _ => rfl
    | failed named => cases nameless.symm.trans named
    | unreadable named => cases nameless.symm.trans named
  constructor
  · intro fails
    cases fails with
    | translated meets => cases met meets
    | passed meets foreign => exact met meets
    | unclosed own => cases own ▸ nameless
  · rintro rfl
    exact .passed (.undeclared nameless) nofun

theorem outcome_eq_error_iff : (task.run token c).outcome = .error e ↔ task.Fails c e := by
  cases shape : task.shape with
  | stream =>
    cases task with
    | list l => exact outcome_list_eq_error_iff
    | backup params => cases shape
    | restore params => cases shape
  | unary =>
    cases named : task.declared with
    | true => exact outcome_unary_eq_error_iff named shape
    | false =>
      rw [run_undeclared named, fails_of_undeclared named]
      simp [Run.fail, eq_comm]

theorem calls_eq_singleton {r : Run Unit} {call : SentCall} (before : List Event)
    {after : List Event}
    (events : r.events = before ++ .sent call :: after)
    (unsent : ∀ event ∈ before ++ after, event.call? = none) : r.calls = [call] := by
  simp only [List.mem_append, or_imp, forall_and] at unsent
  rw [Run.calls_eq, events, List.filterMap_append, List.filterMap_cons,
    List.filterMap_eq_nil_iff.2 unsent.1, List.filterMap_eq_nil_iff.2 unsent.2]
  rfl

theorem call?_of_left {event : Event} (left : Stream.Left event) : event.call? = none := by
  cases event with
  | sent call => cases left
  | _ => rfl

theorem events_collected (l : Listing) (token : String) (c : Coordinator) :
    (l.collected (credentialInterceptors token) c).events = announced .stream l.method ::
      .sent (sentCall token c.metadata l.method []) :: (l.drained c).events := by
  rw [Listing.collected, send_eq]
  cases drained : (l.drained c).outcome with
  | error e => rw [Run.bind_of_error rfl]
  | ok items => rw [Run.bind_of_ok rfl]; exact List.append_nil _

theorem events_operate (token : String) (c : Coordinator) (method : Method)
    (request : List UInt8) : (operate (credentialInterceptors token) c method request).events =
      announced .unary method :: .sent (sentCall token c.metadata method request) ::
        c.operation.act.events := by
  cases failed : c.operation.failure? with
  | some e => rw [operate_of_failure failed]
  | none =>
    have completed := Stream.failure?_eq_none_iff.1 failed
    rw [operate_of_completed completed, completed]
    rfl

theorem calls_run : (task.run token c).calls =
    if task.declared then [sentCall token c.metadata task.method task.request] else [] := by
  cases named : task.declared with
  | false => rw [run_undeclared named]; rfl
  | true =>
    cases shape : task.shape with
    | unary =>
      obtain ⟨note, ran⟩ := run_declared named shape token c
      rw [ran]
      refine calls_eq_singleton [.log note, announced .unary task.method]
        (congrArg (Event.log note :: ·) (events_operate token c task.method task.request)) ?_
      cases c.operation <;> simp [Ending.act, Run.pure_def, Run.fail, announced, Event.call?]
    | stream =>
      cases task with
      | backup params => cases shape
      | restore params => cases shape
      | list l =>
        rw [run_list_eq, Run.map_eq]
        refine calls_eq_singleton [announced .stream l.method]
          (events_collected l token c) fun event member => ?_
        rcases List.mem_cons.1 member with rfl | member
        · rfl
        · exact call?_of_left (Stream.leaves_drain _ _ _ event member)

/-- Whatever the coordinator does, no error of the remote side gets through to whoever asked for
something. It is translated, for each task in the same way; every other failure is left as it is. -/
theorem rpc_errors_translated (task : Task) (token : String) (c : Coordinator) :
    (∀ e, (task.run token c).outcome = .error e ↔ task.Fails c e) ∧
    (∀ fault, (task.run token c).outcome ≠ .error (.rpc fault)) ∧
    (∀ fault, task.Translates fault (task.cause fault).report) ∧
    (task.run token c).calls =
      if task.declared then [sentCall token c.metadata task.method task.request] else [] := by
  refine ⟨fun e => outcome_eq_error_iff, fun fault escaped => ?_, task.translates_cause, calls_run⟩
  cases outcome_eq_error_iff.1 escaped with
  | passed meets foreign => exact foreign fault rfl

end Task

end Client

end BackupConsole
