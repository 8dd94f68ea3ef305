import BackupConsole.Proofs.Listing.Outcome

set_option autoImplicit false

namespace BackupConsole

open Contract (Method)

variable {α β : Type}

def Event.deed? : Event → Option Event
  | log _ => none
  | event => some event

def Event.isSignal : Event → Bool
  | signal => true
  | _ => false

/-- All that may follow a signal: releasing what is open, and notes about it. -/
def Event.Release : Event → Prop
  | log _ | cancel _ | closed => True
  | _ => False

namespace Run

def deeds (r : Run α) : List Event := r.events.filterMap Event.deed?

theorem signals_eq (r : Run α) : r.signals = r.events.countP Event.isSignal := rfl

theorem countP_deeds {p : Event → Bool} (blind : ∀ record, p (.log record) = false) (r : Run α) :
    r.events.countP p = r.deeds.countP p := by
  unfold deeds
  induction r.events with
  | nil => rfl
  | cons event events ih =>
    cases event <;> simp [Event.deed?, List.filterMap_cons, List.countP_cons, blind, ih]

theorem filterMap_deeds {pick : Event → Option β} (blind : ∀ record, pick (.log record) = none)
    (r : Run α) : r.events.filterMap pick = r.deeds.filterMap pick := by
  unfold deeds
  rw [List.filterMap_filterMap]
  congr 1
  funext event
  cases event <;> simp [Event.deed?, blind]

theorem signals_eq_zero_iff {r : Run α} : r.signals = 0 ↔ r.Leaves (· ≠ .signal) := by
  rw [signals_eq, List.countP_eq_zero]
  refine forall₂_congr fun event _ => ?_
  cases event <;> simp [Event.isSignal]

end Run

namespace Interrupt

/-- Where a signal can come while a command waits, and what the command does in all: before the
signal, and after it. -/
inductive Signalled (files : Files) (s : Settings) (c : Coordinator) :
    Command → List Event → Prop
  | connecting {command : Command} {method : Method} {request : List UInt8}
      {params : ChannelParams} (own : command.method? = some method)
      (made : command.request s = .ok request) (opened : channelParams files s = .ok params)
      (timely : ¬ Channel.Late s c.readiness) (signal : c.readiness.ending = .interrupted) :
      Signalled files s c command [.opened params, .signal, .closed]
  | reading {l : Listing} {params : ChannelParams} {items : List l.Item}
      (opened : channelParams files s = .ok params) (ready : Channel.Ready s c.readiness)
      (converted : Stream.Converted l.convert (l.script c).items items)
      (signal : (l.script c).ending = .interrupted) :
      Signalled files s c l.command (.opened params ::
        .sent (Client.sentCall s.apiToken c.metadata l.method []) ::
        (List.replicate (items.length + 1) .read ++
          [.signal, .cancel (l.script c).cancelFault.isNone, .closed]))
  | calling {op : Operation} {bytes : List UInt8} {params : ChannelParams}
      (made : op.request s = .ok bytes) (opened : channelParams files s = .ok params)
      (ready : Channel.Ready s c.readiness) (signal : c.operation = .interrupted) :
      Signalled files s c op.command [.opened params,
        .sent (Client.sentCall s.apiToken c.metadata op.method bytes), .signal, .closed]

variable {files : Files} {s : Settings} {c : Coordinator} {command : Command}

theorem await_of_signal (timely : ¬ Channel.Late s c.readiness)
    (signal : c.readiness.ending = .interrupted) :
    Channel.await s c.readiness = ⟨.error .cancelled, [.signal]⟩ := by
  rw [Channel.await_of_timely timely, signal]
  rfl

theorem await_of_ready (ready : Channel.Ready s c.readiness) :
    Channel.await s c.readiness = ⟨.ok (), []⟩ := by
  rw [Channel.await_of_timely ready.not_late, ready.2]
  rfl

theorem perform_connecting {method : Method} {request : List UInt8} {params : ChannelParams}
    (own : command.method? = some method) (made : command.request s = .ok request)
    (opened : channelParams files s = .ok params) (timely : ¬ Channel.Late s c.readiness)
    (signal : c.readiness.ending = .interrupted) :
    command.perform files s c =
      ⟨.error .cancelled, [.opened params, Channel.connecting s, .signal, .closed]⟩ := by
  have waited := await_of_signal timely signal
  have unready : (Channel.await s c.readiness).outcome = .error .cancelled := by rw [waited]
  have stopped {α : Type} (body : List (Interceptor String) → Run α) :
      Channel.withOpen files s c.readiness body =
        ⟨.error .cancelled, [.opened params, Channel.connecting s, .signal, .closed]⟩ := by
    rw [Channel.withOpen_of_unready opened unready, waited]
    rfl
  rcases command.kinds with ⟨l, rfl⟩ | ⟨op, rfl⟩ | rfl
  · rw [l.perform_eq, stopped]
    rfl
  · rw [op.request_command] at made
    rw [Operation.perform_of_made made, stopped]
    rfl
  · cases own

-- The stream was not at its end, so that its call is still open and is cancelled.
theorem drain_of_signal {operation : String} {convert : α → Except Failure β} {script : Script α}
    {items : List β} (converted : Stream.Converted convert script.items items)
    (signal : script.ending = .interrupted) :
    Stream.drain operation convert script = ⟨.error .cancelled,
      List.replicate (items.length + 1) .read ++
        .signal :: (Stream.closeAfterFailure operation script false).events⟩ := by
  have first : Stream.FailsFirst convert script.items script.ending .cancelled :=
    .ending converted (by rw [signal]; rfl)
  have isOpen : Stream.isOver convert script = false := by
    simp [Stream.isOver, signal, Ending.finishes]
  refine Run.ext (Stream.drain_of_failsFirst first) ?_
  rw [Stream.events_drain_of_failsFirst first, Stream.events_receive_of_converted converted,
    List.Forall₂.length_eq converted, isOpen, signal, List.append_assoc]
  rfl

theorem closeAfterFailure_deeds (operation : String) (script : Script α) :
    (Stream.closeAfterFailure operation script false).deeds =
      [.cancel script.cancelFault.isNone] := by
  unfold Stream.closeAfterFailure Stream.close
  cases script.cancelFault <;> rfl

theorem perform_reading {l : Listing} {params : ChannelParams} {items : List l.Item}
    (opened : channelParams files s = .ok params) (ready : Channel.Ready s c.readiness)
    (converted : Stream.Converted l.convert (l.script c).items items)
    (signal : (l.script c).ending = .interrupted) :
    l.command.perform files s c = ⟨.error .cancelled,
      .opened params :: Channel.connecting s :: Channel.connected s ::
        Client.announced .stream l.method ::
        .sent (Client.sentCall s.apiToken c.metadata l.method []) ::
        (List.replicate (items.length + 1) .read ++ .signal ::
          ((Stream.closeAfterFailure l.subject (l.script c) false).events ++ [.closed]))⟩ := by
  have drained : l.drained c = _ := drain_of_signal converted signal
  have waited := await_of_ready ready
  have became : (Channel.await s c.readiness).outcome = .ok () := by rw [waited]
  have collected : l.collected (credentialInterceptors s.apiToken) c = ⟨.error .cancelled,
      Client.announced .stream l.method ::
        .sent (Client.sentCall s.apiToken c.metadata l.method []) :: (l.drained c).events⟩ := by
    rw [Listing.collected, Client.send_eq, drained, Run.bind_of_error rfl]
  have uncaught : l.listed c (credentialInterceptors s.apiToken) =
      some <$> l.collected (credentialInterceptors s.apiToken) c := by
    have found : (some <$> l.collected (credentialInterceptors s.apiToken) c).outcome =
        .error .cancelled := by
      rw [Run.map_eq, collected]
      rfl
    exact Run.recover_of_none found rfl
  rw [l.perform_eq, Channel.withOpen_of_ready opened became, uncaught, Run.map_eq, collected,
    waited, drained]
  simp [Run.bind_of_error, Except.map]

theorem perform_calling {op : Operation} {bytes : List UInt8} {params : ChannelParams}
    (made : op.request s = .ok bytes) (opened : channelParams files s = .ok params)
    (ready : Channel.Ready s c.readiness) (signal : c.operation = .interrupted) :
    op.command.perform files s c = ⟨.error .cancelled,
      [.opened params, Channel.connecting s, Channel.connected s, .log (op.notice s),
        Client.announced .unary op.method,
        .sent (Client.sentCall s.apiToken c.metadata op.method bytes), .signal, .closed]⟩ := by
  have waited := await_of_ready ready
  have became : (Channel.await s c.readiness).outcome = .ok () := by rw [waited]
  have stopped : c.operation.failure? = some .cancelled := by rw [signal]; rfl
  have failed := Client.operate_of_failure stopped s.apiToken op.method bytes
  have outcome : (Client.operate (credentialInterceptors s.apiToken) c op.method bytes).outcome =
      .error .cancelled := by
    rw [failed]
    rfl
  rw [Operation.perform_of_failed made opened became outcome, failed, waited, signal]
  rfl

theorem perform_of_signalled {deeds : List Event} (signalled : Signalled files s c command deeds) :
    (command.perform files s c).outcome = .error .cancelled ∧
      (command.perform files s c).deeds = deeds ∧
      (command.perform files s c).Leaves Event.Quiet := by
  cases signalled with
  | connecting own made opened timely signal =>
    rw [perform_connecting own made opened timely signal]
    refine ⟨rfl, rfl, ?_⟩
    simp [Run.Leaves, Event.Quiet, Event.isLoud, Channel.connecting]
  | @reading l params items opened ready converted signal =>
    have closing := closeAfterFailure_deeds l.subject (l.script c)
    have quiet : (Stream.closeAfterFailure l.subject (l.script c) false).Leaves Event.Quiet := by
      apply Stream.leaves_closeAfterFailure
      · intro released
        rfl
      · intro record debug
        simp [Event.Quiet, Event.isLoud, debug]
    rw [perform_reading opened ready converted signal]
    refine ⟨rfl, ?_, ?_⟩
    · rw [Run.deeds] at closing ⊢
      simp [Event.deed?, List.filterMap_cons, Channel.connecting, Channel.connected,
        Client.announced, closing, List.filterMap_replicate]
    · simp only [Run.Leaves] at quiet ⊢
      simp only [List.mem_cons, List.mem_append, List.mem_replicate]
      rintro event (rfl | rfl | rfl | rfl | rfl | ⟨_, rfl⟩ | rfl | closed | rfl | none)
      any_goals rfl
      · exact quiet event closed
      · cases none
  | @calling op bytes params made opened ready signal =>
    rw [perform_calling made opened ready signal]
    refine ⟨rfl, rfl, ?_⟩
    have informs : (op.notice s).level = .info := by cases op <;> rfl
    simp [Run.Leaves, Event.Quiet, Event.isLoud, Channel.connecting, Channel.connected,
      Client.announced, informs]

end Interrupt

namespace Channel

variable {kind : Event → Prop} {files : Files} {s : Settings} {readiness : Readiness}

theorem leaves_withOpen (noted : ∀ record, kind (.log record))
    (opens : ∀ params, kind (.opened params)) (closes : kind .closed)
    {body : List (Interceptor String) → Run α}
    (waits : ∀ params, channelParams files s = .ok params → (await s readiness).Leaves kind)
    (uses : Reached files s readiness → (body (credentialInterceptors s.apiToken)).Leaves kind) :
    (withOpen files s readiness body).Leaves kind := by
  cases opened : channelParams files s with
  | error e =>
    rw [withOpen_of_error opened]
    exact Run.leaves_nothing _ _
  | ok params =>
    have waiting := waits params opened
    simp only [Run.Leaves] at waiting uses ⊢
    cases ready : (await s readiness).outcome with
    | error e =>
      rw [withOpen_of_unready opened ready]
      simp only [List.mem_cons, List.mem_append]
      rintro event (rfl | rfl | waited | rfl | none)
      · exact opens params
      · exact noted _
      · exact waiting event waited
      · exact closes
      · cases none
    | ok done =>
      have used := uses ⟨⟨params, opened⟩, outcome_await_iff.1 ready⟩
      rw [withOpen_of_ready opened ready]
      simp only [List.mem_cons, List.mem_append]
      rintro event (rfl | rfl | waited | rfl | during | rfl | none)
      · exact opens params
      · exact noted _
      · exact waiting event waited
      · exact noted _
      · exact used event during
      · exact closes
      · cases none

end Channel

namespace Client

variable {kind : Event → Prop}

theorem leaves_send (noted : ∀ record, kind (.log record)) (sends : ∀ call, kind (.sent call))
    {answer : Run α} (answers : answer.Leaves kind) (token : String) (shape : CallShape)
    (metadata : Metadata) (method : Method) (request : List UInt8) :
    (send (credentialInterceptors token) shape metadata method request answer).Leaves kind := by
  rw [send_eq]
  exact List.forall_mem_cons.2 ⟨noted _, List.forall_mem_cons.2 ⟨sends _, answers⟩⟩

theorem leaves_operate (noted : ∀ record, kind (.log record)) (sends : ∀ call, kind (.sent call))
    {c : Coordinator} (acts : c.operation.act.Leaves kind) (token : String) (method : Method)
    (request : List UInt8) :
    (operate (credentialInterceptors token) c method request).Leaves kind := by
  have answers : (do
      c.operation.act
      let _ ← Run.ofExcept (received .runOperationResponse c.reply)
      return ()).Leaves kind :=
    acts.bind fun _ => (Run.leaves_nothing _ _).bind fun _ => Run.leaves_nothing _ _
  refine (leaves_send noted sends answers _ _ _ _ _).recover fun e handled caught => ?_
  cases e with
  | rpc e =>
    cases caught
    exact Run.leaves_nothing _ _
  | _ => cases caught

end Client

theorem Command.leaves_listed {kind : Event → Prop} (noted : ∀ record, kind (.log record))
    (complaint : String) {r : Run α} (reads : r.Leaves kind) :
    (listed complaint r).Leaves kind := by
  have found : (some <$> r).Leaves kind := by
    rw [Run.map_eq]
    exact reads
  refine found.recover fun e handled caught => ?_
  cases e with
  | refused cause =>
    simp only at caught
    split at caught <;> cases caught
    exact (Run.leaves_emit (noted _)).bind fun _ => Run.leaves_nothing _ _
  | _ => cases caught

namespace Interrupt

variable {files : Files} {s : Settings} {c : Coordinator} {command : Command}

theorem leaves_await_of_unsignalled {method : Method} {request : List UInt8}
    {params : ChannelParams} (unsignalled : ¬ ∃ deeds, Signalled files s c command deeds)
    (own : command.method? = some method) (made : command.request s = .ok request)
    (opened : channelParams files s = .ok params) :
    (Channel.await s c.readiness).Leaves (· ≠ .signal) := by
  refine Channel.leaves_await Event.noConfusion fun timely signal => ?_
  exact absurd ⟨_, .connecting own made opened timely signal⟩ unsignalled

theorem leaves_collected_of_unsignalled {l : Listing}
    (unsignalled : ¬ ∃ deeds, Signalled files s c l.command deeds)
    (reached : Channel.Reached files s c.readiness) :
    (l.collected (credentialInterceptors s.apiToken) c).Leaves (· ≠ .signal) := by
  obtain ⟨⟨params, opened⟩, ready⟩ := reached
  refine Run.Leaves.bind ?_ fun _ => Run.leaves_nothing _ _
  refine Client.leaves_send (fun _ => Event.noConfusion) (fun _ => Event.noConfusion) ?_ _ _ _ _ _
  refine Stream.leaves_drain_of_receive (fun _ => Event.noConfusion)
    (fun _ _ => Event.noConfusion) _ ?_
  refine Stream.leaves_receive Event.noConfusion fun items converted => ?_
  refine Stream.leaves_act Event.noConfusion fun signal => ?_
  exact absurd ⟨_, .reading opened ready converted signal⟩ unsignalled

theorem leaves_operate_of_unsignalled {op : Operation} {bytes : List UInt8}
    (made : op.request s = .ok bytes)
    (unsignalled : ¬ ∃ deeds, Signalled files s c op.command deeds)
    (reached : Channel.Reached files s c.readiness) :
    (Client.operate (credentialInterceptors s.apiToken) c op.method bytes).Leaves
      (· ≠ .signal) := by
  obtain ⟨⟨params, opened⟩, ready⟩ := reached
  refine Client.leaves_operate (fun _ => Event.noConfusion) (fun _ => Event.noConfusion) ?_ _ _ _
  refine Stream.leaves_act Event.noConfusion fun signal => ?_
  exact absurd ⟨_, .calling made opened ready signal⟩ unsignalled

/-- A signal comes at no other point than those. -/
theorem leaves_perform (unsignalled : ¬ ∃ deeds, Signalled files s c command deeds) :
    (command.perform files s c).Leaves (· ≠ .signal) := by
  have noted (record : LogRecord) : Event.log record ≠ .signal := Event.noConfusion
  have wrote (text : String) : Event.wrote text ≠ .signal := Event.noConfusion
  have opens (params : ChannelParams) : Event.opened params ≠ .signal := Event.noConfusion
  rcases command.kinds with ⟨l, rfl⟩ | ⟨op, rfl⟩ | rfl
  · rw [l.perform_eq]
    refine Run.Leaves.bind ?_ fun found => ?_
    · refine Channel.leaves_withOpen noted opens Event.noConfusion (fun params opened => ?_) ?_
      · exact leaves_await_of_unsignalled unsignalled l.method?_command (l.request_command s) opened
      · intro reached
        exact Command.leaves_listed noted l.complaint
          (leaves_collected_of_unsignalled unsignalled reached)
    · cases found with
      | none => exact Run.leaves_nothing _ _
      | some collection => exact Output.leaves_write noted wrote _
  · cases made : op.request s with
    | error cause =>
      rw [op.perform_eq, made]
      exact Run.leaves_nothing _ _
    | ok bytes =>
      have asked : op.command.request s = .ok bytes := (op.request_command s).trans made
      rw [Operation.perform_of_made made]
      refine Run.Leaves.bind ?_ fun _ => Output.leaves_write noted wrote _
      refine Channel.leaves_withOpen noted opens Event.noConfusion (fun params opened => ?_) ?_
      · exact leaves_await_of_unsignalled unsignalled op.method?_command asked opened
      · intro reached
        refine Run.Leaves.bind ?_ fun _ => leaves_operate_of_unsignalled made unsignalled reached
        exact Run.leaves_emit (noted _)
  · exact Output.leaves_write noted wrote _

end Interrupt

end BackupConsole
