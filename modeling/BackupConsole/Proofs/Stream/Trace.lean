import BackupConsole.Proofs.Connection.Course
import BackupConsole.Proofs.Stream.Drain

set_option autoImplicit false

namespace BackupConsole

def Event.isCancel : Event → Bool
  | cancel _ => true
  | _ => false

def Run.cancels {α : Type} (r : Run α) : Nat := r.events.countP Event.isCancel

namespace Stream

variable {α β : Type} {kind : Event → Prop}

def Left : Event → Prop
  | .read | .cancel _ | .signal | .waited => True
  | .log record => record.level = .debug
  | _ => False

theorem leaves_act (waited : kind .waited) {ending : Ending}
    (signal : ending = .interrupted → kind .signal) : ending.act.Leaves kind := by
  cases ending with
  | complete => exact Run.leaves_nothing _ _
  | fails e => exact Run.leaves_nothing _ _
  | breaks kind text => exact Run.leaves_nothing _ _
  | blocked =>
    intro event member
    rw [List.mem_singleton.1 member]
    exact waited
  | interrupted =>
    intro event member
    rw [List.mem_singleton.1 member]
    exact signal rfl

theorem receive_nil_eq (convert : α → Except Failure β) (ending : Ending) :
    (receive convert ending []).events = .read :: ending.act.events := by
  cases ending <;> rfl

theorem receive_cons_of_error {convert : α → Except Failure β} {item : α} {e : Failure}
    (fails : convert item = .error e) (ending : Ending) (rest : List α) :
    (receive convert ending (item :: rest)).events = [.read] := by
  rw [receive, fails]
  rfl

theorem receive_cons_of_ok {convert : α → Except Failure β} {item : α} {b : β}
    (converts : convert item = .ok b) (ending : Ending) (rest : List α) :
    (receive convert ending (item :: rest)).events =
      .read :: (receive convert ending rest).events := by
  simp only [receive, converts, Run.emit_bind, Run.ofExcept_bind]
  cases received : (receive convert ending rest).outcome with
  | error e => rw [Run.bind_of_error received]
  | ok bs =>
    rw [Run.bind_of_ok received]
    simp [Run.pure_def]

theorem events_receive_of_converted {convert : α → Except Failure β} {items : List α} {bs : List β}
    (converted : Converted convert items bs) (ending : Ending) :
    (receive convert ending items).events =
      List.replicate (items.length + 1) .read ++ ending.act.events := by
  induction converted with
  | nil => exact receive_nil_eq convert ending
  | cons converts _ ih =>
    rw [receive_cons_of_ok converts, ih, List.length_cons, ← List.cons_append,
      ← List.replicate_succ]

theorem leaves_receive (read : kind .read) {convert : α → Except Failure β} {ending : Ending}
    {items : List α} (acts : ∀ bs, Converted convert items bs → ending.act.Leaves kind) :
    (receive convert ending items).Leaves kind := by
  unfold Run.Leaves
  induction items with
  | nil =>
    rw [receive_nil_eq]
    exact List.forall_mem_cons.2 ⟨read, acts [] .nil⟩
  | cons item rest ih =>
    cases converts : convert item with
    | error e =>
      rw [receive_cons_of_error converts]
      exact List.forall_mem_singleton.2 read
    | ok b =>
      rw [receive_cons_of_ok converts]
      -- The ending is acted out only past the last item, whatever comes before it.
      have later := ih fun bs converted => acts (b :: bs) (.cons converts converted)
      exact List.forall_mem_cons.2 ⟨read, later⟩

theorem leaves_close (cancel : ∀ released, kind (.cancel released)) (s : Script α) (ended : Bool) :
    (close s ended).Leaves kind := by
  unfold close
  split
  next => exact Run.leaves_nothing _ _
  next =>
    cases s.cancelFault with
    | none => exact Run.leaves_emit (cancel _)
    | some text =>
      intro event member
      rw [List.mem_singleton.1 member]
      exact cancel false

theorem leaves_closeAfterFailure (cancel : ∀ released, kind (.cancel released))
    (noted : ∀ record : LogRecord, record.level = .debug → kind (.log record))
    (operation : String) (s : Script α) (ended : Bool) :
    (closeAfterFailure operation s ended).Leaves kind := by
  refine (leaves_close cancel s ended).recover fun e handled caught => ?_
  cases e with
  | raised kind text =>
    cases caught
    exact Run.leaves_emit (noted _ rfl)
  | _ => cases caught

theorem leaves_drain_of_receive (cancel : ∀ released, kind (.cancel released))
    (noted : ∀ record : LogRecord, record.level = .debug → kind (.log record))
    (operation : String) {convert : α → Except Failure β} {s : Script α}
    (received : (receive convert s.ending s.items).Leaves kind) :
    (drain operation convert s).Leaves kind := by
  cases h : (receive convert s.ending s.items).outcome with
  | error e =>
    have events : (⟨.ok (), (receive convert s.ending s.items).events⟩ : Run Unit).Leaves kind :=
      received
    simp only [drain, h]
    refine events.bind fun _ =>
      (leaves_closeAfterFailure cancel noted operation s _).bind fun _ => ?_
    split <;> exact Run.leaves_nothing _ _
  | ok bs =>
    simp only [drain, h]
    have drained (fields : List (String × Datum)) :
        (Run.log .debug logger "Stream drained" fields).Leaves kind :=
      Run.leaves_emit (noted _ rfl)
    refine received.bind fun _ => Run.Leaves.bind ?_ fun _ =>
      (drained _).bind fun _ => Run.leaves_nothing _ _
    refine (leaves_close cancel s _).recover fun e handled caught => ?_
    cases e with
    | raised kind text =>
      cases caught
      exact Run.leaves_nothing _ _
    | _ => cases caught

theorem events_drain_of_failsFirst {operation : String} {convert : α → Except Failure β}
    {s : Script α} {e : Failure} (first : FailsFirst convert s.items s.ending e) :
    (drain operation convert s).events = (receive convert s.ending s.items).events ++
      (closeAfterFailure operation s (isOver convert s)).events := by
  have failed := receive_of_failsFirst first
  have closed := closeAfterFailure_ok operation s (isOver convert s)
  simp only [drain, failed]
  rw [Run.bind_of_ok rfl, Run.bind_of_ok closed]
  cases e <;> simp [Run.fail]

theorem leaves_drain (operation : String) (convert : α → Except Failure β) (s : Script α) :
    (drain operation convert s).Leaves Left := by
  have acts : s.ending.act.Leaves Left := leaves_act trivial fun _ => trivial
  have received : (receive convert s.ending s.items).Leaves Left :=
    leaves_receive trivial fun _ _ => acts
  exact leaves_drain_of_receive (fun _ => trivial) (fun _ debug => debug) operation received

theorem events_within {timeout : Float} (timely : ¬ timeout ≤ 0.0) {operation : String}
    {body : Script α → Run β} {s : Script α} : (within timeout operation body s).events =
      (body (seen (Patience.ofSeconds timeout) s)).events := by
  unfold within
  rw [if_neg (mt Patience.ofSeconds_eq_none_iff.1 timely)]
  dsimp only
  split
  next => rfl
  next => split <;> rfl
  next => rfl

end Stream

end BackupConsole
