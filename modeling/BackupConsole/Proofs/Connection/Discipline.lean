import BackupConsole.Proofs.Connection.Errand

set_option autoImplicit false

namespace BackupConsole

open Contract (Method)

theorem Contract.Method.path_injective {a b : Method} (same : a.path = b.path) : a = b := by
  cases a <;> cases b <;> first | rfl | exact absurd same (by decide)

structure Disciplined {α : Type} (method? : Option Method) (run : Run α) : Prop where
  one_channel : run.channels.length ≤ 1
  closed_once : run.closings = run.channels.length
  -- Reads, cancellations and calls are all over when the channel is closed.
  closed_last : ∀ before after, run.events = before ++ .closed :: after →
    ∀ event ∈ after, event.Aside
  opened_first : ∀ before params after, run.events = before ++ .opened params :: after →
    ∀ event ∈ before, event.Aside
  unopened : run.channels = [] → ∀ event ∈ run.events, event.Aside
  one_call : run.calls.length ≤ 1
  own_call : ∀ call ∈ run.calls, ∃ method, method? = some method ∧ call.method = method.path

namespace Connection

variable {α : Type}

theorem Phase.AtRest.closings_eq {phase : Phase} (rests : phase.AtRest) :
    phase.closings = phase.channels := by
  rcases rests with rfl | rfl <;> rfl

theorem Course.disciplined {terms : Terms} {phase : Phase} {method? : Option Method} {run : Run α}
    (course : Course terms .apart run.events phase) (rests : phase.AtRest)
    (own : ∀ call, terms.sends call →
      ∃ method, method? = some method ∧ call.method = method.path) :
    Disciplined method? run := by
  obtain ⟨channels, closings, calls⟩ := course.tally
  rw [← Run.channels_eq] at channels
  rw [← Run.closings_eq] at closings
  rw [← Run.calls_eq] at calls
  obtain ⟨unopened, unclosed, oneLeft⟩ : Phase.channels .apart = 0 ∧ Phase.closings .apart = 0 ∧
      Phase.callsLeft .apart = 1 := ⟨rfl, rfl, rfl⟩
  have balanced := rests.closings_eq
  have bounded : phase.channels ≤ 1 := by cases phase <;> simp [Phase.channels]
  exact {
    one_channel := by omega
    closed_once := by omega
    closed_last := by
      intro before after split
      exact (split ▸ course).after_closed
    opened_first := by
      intro before params after split
      exact (split ▸ course).before_opened
    unopened := by
      intro none_opened
      have apart : phase = .apart := by
        rw [none_opened, unopened] at channels
        rcases rests with rfl | rfl
        · rfl
        · cases channels
      exact (apart ▸ course).aside_of_apart.2
    one_call := by omega
    own_call := by
      intro call sent
      exact own call (course.permitted.2 call sent) }

end Connection

namespace Errand

theorem disciplined (e : Errand) (files : Files) (s : Settings) (c : Coordinator) :
    Disciplined e.method? (e.run files s c) := by
  obtain ⟨phase, rests, course⟩ := e.course_run files s c
  refine course.disciplined rests ?_
  rintro call ⟨_, method, request, asks, rfl⟩
  exact ⟨method, asks.own, rfl⟩

def OnlyReads (e : Errand) : Prop := e ≠ command .runBackup ∧ e ≠ command .runRestore

theorem OnlyReads.method {e : Errand} {method : Method} (reads : e.OnlyReads)
    (own : e.method? = some method) : method ≠ .runBackup ∧ method ≠ .runRestore := by
  cases e with
  | command kind =>
    cases kind with
    | runBackup => exact absurd rfl reads.1
    | runRestore => exact absurd rfl reads.2
    | showVersion => cases own
    | _ =>
      cases own
      simp
  | names timeout =>
    cases own
    simp
  | completion incomplete =>
    cases own
    simp

theorem OnlyReads.call {e : Errand} {files : Files} {s : Settings} {c : Coordinator}
    (reads : e.OnlyReads) {call : SentCall} (sent : call ∈ (e.run files s c).calls) :
    call.method ≠ Method.runBackup.path ∧ call.method ≠ Method.runRestore.path := by
  obtain ⟨method, own, named⟩ := (e.disciplined files s c).own_call call sent
  obtain ⟨noBackup, noRestore⟩ := reads.method own
  rw [named]
  exact ⟨fun same => noBackup (Contract.Method.path_injective same),
    fun same => noRestore (Contract.Method.path_injective same)⟩

end Errand

theorem Session.complete_run (world : World) (c : Coordinator) (globals : CommandLine.Globals)
    (incomplete : String) :
    (∃ files s, (complete world c globals incomplete).run =
      (Errand.completion incomplete).run files s c) ∨
    (complete world c globals incomplete).run.Leaves Event.Aside := by
  have aside (e : Failure) : (withoutComplaints (.fail e)).Leaves Event.Aside := by
    refine (Run.leaves_nothing _ _).recover fun e handled caught => ?_
    obtain ⟨text, _, rfl⟩ := Option.map_eq_some_iff.1 caught
    exact (Run.leaves_emit trivial).bind fun _ => Run.leaves_nothing _ _
  unfold complete
  split
  split
  next => exact .inr (aside _)
  next =>
    split
    next => exact .inr (aside _)
    next files journal _ => exact .inl ⟨files, _, rfl⟩

theorem Session.complete_disciplined (world : World) (c : Coordinator)
    (globals : CommandLine.Globals) (incomplete : String) :
    Disciplined (some .backupsMetadata) (complete world c globals incomplete).run := by
  rcases complete_run world c globals incomplete with ⟨files, s, same⟩ | aside
  · rw [same]
    exact (Errand.completion incomplete).disciplined files s c
  · have unused : Connection.Course ⟨fun _ => False, fun _ => False⟩ .apart
        (complete world c globals incomplete).run.events .apart :=
      Connection.course_of_aside aside .apart
    exact unused.disciplined (.inl rfl) fun _ sends => sends.elim

/-- Every errand keeps to its connection, and none but the two operations asks for a change. -/
theorem errands_disciplined (files : Files) (s : Settings) (c : Coordinator) :
    (∀ e : Errand, Disciplined e.method? (e.run files s c) ∧
      (¬ Channel.Ready (e.settings s) c.readiness → (e.run files s c).calls = []) ∧
      (e.OnlyReads → ∀ call ∈ (e.run files s c).calls,
        call.method ≠ Method.runBackup.path ∧ call.method ≠ Method.runRestore.path)) ∧
    (Command.showVersion.dispatch files s c).channels = [] ∧
    ∀ world globals incomplete, Disciplined (some .backupsMetadata)
      (Session.complete world c globals incomplete).run := by
  refine ⟨fun e => ⟨e.disciplined files s c, ?_, fun reads call => reads.call⟩, ?_,
    fun world globals incomplete => Session.complete_disciplined world c globals incomplete⟩
  · intro unready
    rw [List.eq_nil_iff_forall_not_mem]
    intro call sent
    exact unready (Errand.sends_of_call sent).1
  · rw [List.eq_nil_iff_forall_not_mem]
    intro params opened
    have shown : params ∈ ((Errand.command .showVersion).run files s c).channels := opened
    obtain ⟨_, method, _, asks⟩ := Errand.opens_of_channel shown
    cases asks.own

end BackupConsole
