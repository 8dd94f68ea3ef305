import BackupConsole.Proofs.Connection.Authorization

set_option autoImplicit false

namespace BackupConsole

open Contract (Method)

variable {α β : Type}

/-- What the event would have been with another token. -/
def Event.reauthorized (token : String) : Event → Event
  | .sent call => .sent { call with metadata := call.metadata.withAuthorization token }
  | event => event

-- Calls as they leave differ in the one entry that comes last.
structure SentCall.AlikeBut (first second : String) (a b : SentCall) : Prop where
  method : a.method = b.method
  request : a.request = b.request
  metadata : ∃ others : Metadata, Metadata.authorizationKey ∉ others.keys ∧
    a.metadata = others ++ [(Metadata.authorizationKey, "bearer " ++ first)] ∧
    b.metadata = others ++ [(Metadata.authorizationKey, "bearer " ++ second)]

/-- Two runs that nobody but the coordinator can tell apart, and it only by the authorization. -/
structure Run.AlikeBut (first second : String) (r t : Run α) : Prop where
  outcome : r.outcome = t.outcome
  output : r.output = t.output
  logs : r.logs = t.logs
  channels : r.channels = t.channels
  closings : r.closings = t.closings
  calls : List.Forall₂ (SentCall.AlikeBut first second) r.calls t.calls
  -- Whoever does not look into calls sees the same events in the same order.
  others : ∀ {γ : Type} (pick : Event → Option γ), (∀ call, pick (.sent call) = none) →
    r.events.filterMap pick = t.events.filterMap pick

namespace Run

theorem mapEvents_of_leaves {kind : Event → Prop} {f : Event → Event} {r : Run α}
    (left : r.Leaves kind) (fixed : ∀ event, kind event → f event = event) : r.mapEvents f = r := by
  have same : r.events.map f = r.events := by
    rw [List.map_congr_left fun event member => fixed event (left event member), List.map_id']
  exact ext rfl same

theorem mapEvents_bind (f : Event → Event) (r : Run α) (g : α → Run β) :
    (r >>= g).mapEvents f = r.mapEvents f >>= fun a => (g a).mapEvents f := by
  cases ended : r.outcome with
  | error e =>
    have also : (r.mapEvents f).outcome = .error e := ended
    rw [bind_of_error ended, bind_of_error also]
    rfl
  | ok a =>
    have also : (r.mapEvents f).outcome = .ok a := ended
    rw [bind_of_ok ended, bind_of_ok also]
    simp [mapEvents]

theorem mapEvents_map (f : Event → Event) (g : α → β) (r : Run α) :
    (g <$> r).mapEvents f = g <$> r.mapEvents f := by
  rw [map_eq, map_eq]
  rfl

theorem mapEvents_recover (f : Event → Event) (r : Run α) (handle : Failure → Option (Run α)) :
    (r.recover handle).mapEvents f =
      (r.mapEvents f).recover fun e => (handle e).map (mapEvents f) := by
  cases ended : r.outcome with
  | ok a =>
    have also : (r.mapEvents f).outcome = .ok a := ended
    rw [recover_of_ok ended, recover_of_ok also]
  | error e =>
    have also : (r.mapEvents f).outcome = .error e := ended
    cases handled : handle e with
    | none => rw [recover_of_none ended handled, recover_of_none also (by simp [handled])]
    | some next =>
      have taken : (handle e).map (mapEvents f) = some (next.mapEvents f) := by rw [handled]; rfl
      rw [recover_of_some ended handled, recover_of_some also taken]
      simp [mapEvents]

theorem mapEvents_mapEvents (f g : Event → Event) (r : Run α) :
    (r.mapEvents f).mapEvents g = r.mapEvents (g ∘ f) := by
  simp [mapEvents]

end Run

variable {token : String}

theorem Event.reauthorized_of_aside {event : Event} (aside : event.Aside) :
    event.reauthorized token = event := by
  cases event with
  | sent call => cases aside
  | _ => rfl

theorem Event.reauthorized_of_left {event : Event} (left : Stream.Left event) :
    event.reauthorized token = event := by
  cases event with
  | sent call => cases left
  | _ => rfl

theorem Command.tagged_reauthorized (command : Command) (event : Event) :
    command.tagged (event.reauthorized token) = (command.tagged event).reauthorized token := by
  cases event <;> rfl

theorem Channel.mapEvents_withOpen (files : Files) (s : Settings) (readiness : Readiness)
    (body other : List (Interceptor String) → Run α)
    (used : (body (credentialInterceptors s.apiToken)).mapEvents (Event.reauthorized token) =
      other (credentialInterceptors token)) :
    (withOpen files s readiness body).mapEvents (Event.reauthorized token) =
      withOpen files { s with apiToken := token } readiness other := by
  have params : channelParams files { s with apiToken := token } = channelParams files s := rfl
  have waited : (await s readiness).mapEvents (Event.reauthorized token) =
      await { s with apiToken := token } readiness :=
    Run.mapEvents_of_leaves (leaves_await trivial fun _ _ => trivial)
      fun _ => Event.reauthorized_of_aside
  have same : (use s readiness (body (credentialInterceptors s.apiToken))).mapEvents
      (Event.reauthorized token) =
      use { s with apiToken := token } readiness (other (credentialInterceptors token)) := by
    simp only [use, Run.mapEvents_bind, waited, used]
    rfl
  cases opened : channelParams files s with
  | error e =>
    rw [withOpen_of_error opened, withOpen_of_error (params.trans opened)]
    rfl
  | ok channel =>
    rw [withOpen, createChannel_eq opened, withOpen, createChannel_eq (params.trans opened)]
    simp only [Run.ofExcept_bind, Run.mapEvents_bind, ← same]
    simp [Run.mapEvents, Run.andFinally, Run.emit, Event.reauthorized]

theorem Client.mapEvents_send {answer : Run α}
    (unsent : answer.mapEvents (Event.reauthorized token) = answer) (shape : CallShape)
    (other : String) (metadata : Metadata) (method : Method) (request : List UInt8) :
    (send (credentialInterceptors other) shape metadata method request answer).mapEvents
        (Event.reauthorized token) =
      send (credentialInterceptors token) shape metadata method request answer := by
  have last := Metadata.withAuthorization_withAuthorization other token metadata
  have events : answer.events.map (Event.reauthorized token) = answer.events :=
    congrArg Run.events unsent
  rw [send_eq, send_eq]
  refine Run.ext rfl ?_
  simp [Run.mapEvents, Event.reauthorized, sentCall, announced, last, events]

theorem Stream.mapEvents_drain {κ : Type} (operation : String) (convert : α → Except Failure κ)
    (script : Script α) : (drain operation convert script).mapEvents (Event.reauthorized token) =
      drain operation convert script :=
  Run.mapEvents_of_leaves (leaves_drain operation convert script)
    fun _ => Event.reauthorized_of_left

theorem Run.reauthorized_of_aside {r : Run α} (aside : r.Leaves Event.Aside) :
    r.mapEvents (Event.reauthorized token) = r :=
  mapEvents_of_leaves aside fun _ => Event.reauthorized_of_aside

theorem Run.reauthorized_recover {r : Run α} {handle : Failure → Option (Run α)}
    (aside : ∀ e handled, handle e = some handled → handled.Leaves Event.Aside) :
    (r.recover handle).mapEvents (Event.reauthorized token) =
      (r.mapEvents (Event.reauthorized token)).recover handle := by
  rw [mapEvents_recover]
  congr 1
  funext e
  cases handled : handle e with
  | none => rfl
  | some next => exact congrArg some (reauthorized_of_aside (aside e next handled))

theorem Command.reauthorized_listed (complaint : String) (r : Run α) :
    (listed complaint r).mapEvents (Event.reauthorized token) =
      listed complaint (r.mapEvents (Event.reauthorized token)) := by
  unfold listed
  rw [Run.reauthorized_recover, Run.mapEvents_map]
  intro e handled caught
  cases e with
  | refused cause =>
    simp only at caught
    split at caught <;> cases caught
    exact (Run.leaves_emit trivial).bind fun _ => Run.leaves_nothing _ _
  | _ => cases caught

variable {files : Files} {s : Settings} {c : Coordinator}

theorem Listing.reauthorized_listed (l : Listing) (other : String) (c : Coordinator) :
    (l.listed c (credentialInterceptors other)).mapEvents (Event.reauthorized token) =
      l.listed c (credentialInterceptors token) := by
  have drained : (l.drained c).mapEvents (Event.reauthorized token) = l.drained c :=
    Stream.mapEvents_drain l.subject l.convert (l.script c)
  rw [listed, Command.reauthorized_listed, collected, Run.mapEvents_bind,
    Client.mapEvents_send drained]
  rfl

theorem Client.reauthorized_operate (other : String) (c : Coordinator) (method : Method)
    (request : List UInt8) :
    (operate (credentialInterceptors other) c method request).mapEvents
        (Event.reauthorized token) =
      operate (credentialInterceptors token) c method request := by
  have answered : (do
      c.operation.act
      let _ ← Run.ofExcept (received .runOperationResponse c.reply)
      return () : Run Unit).mapEvents (Event.reauthorized token) = (do
      c.operation.act
      let _ ← Run.ofExcept (received .runOperationResponse c.reply)
      return ()) := by
    refine Run.reauthorized_of_aside ?_
    exact (Stream.leaves_act trivial fun _ => trivial).bind fun _ =>
      (Run.leaves_nothing _ _).bind fun _ => Run.leaves_nothing _ _
  unfold operate
  rw [Run.reauthorized_recover, mapEvents_send answered]
  intro e handled caught
  cases e with
  | rpc e =>
    cases caught
    exact Run.leaves_nothing _ _
  | _ => cases caught

theorem Command.perform_reauthorized (kind : Command) (files : Files) (s : Settings)
    (c : Coordinator) : (kind.perform files s c).mapEvents (Event.reauthorized token) =
      kind.perform files { s with apiToken := token } c := by
  -- Settings reach the channel and the output without their token being asked for.
  rcases kind.kinds with ⟨l, rfl⟩ | ⟨op, rfl⟩ | rfl
  · rw [l.perform_eq, l.perform_eq, Run.mapEvents_bind,
      Channel.mapEvents_withOpen _ _ _ _ _ (l.reauthorized_listed s.apiToken c)]
    refine bind_congr fun found => ?_
    cases found with
    | none => rfl
    | some collection =>
      have same : l.shown { s with apiToken := token } collection = l.shown s collection := by
        cases l <;> cases collection <;> rfl
      exact (Run.reauthorized_of_aside (l.shown s collection).aside_write).trans
        (congrArg Output.write same.symm)
  · have asked : op.request { s with apiToken := token } = op.request s := by cases op <;> rfl
    have noticed : op.notice { s with apiToken := token } = op.notice s := by cases op <;> rfl
    rw [op.perform_eq, op.perform_eq, asked, noticed, Run.mapEvents_bind]
    refine bind_congr fun bytes => ?_
    let asking (interceptors : List (Interceptor String)) : Run Unit := do
      Run.emit (.log (op.notice s))
      Client.operate interceptors c op.method bytes
    have used : (asking (credentialInterceptors s.apiToken)).mapEvents
        (Event.reauthorized token) = asking (credentialInterceptors token) := by
      simp only [asking, Run.mapEvents_bind, Client.reauthorized_operate]
      rfl
    rw [Run.mapEvents_bind, Channel.mapEvents_withOpen files s c.readiness asking asking used,
      Run.reauthorized_of_aside (Output.aside_write _)]
  · exact Run.reauthorized_of_aside (Output.aside_write _)

theorem Stream.mapEvents_within (f : Event → Event) (timeout : Float) (operation : String)
    {body other : Script α → Run β} (drained : ∀ s, (body s).mapEvents f = other s)
    (s : Script α) :
    (within timeout operation body s).mapEvents f = within timeout operation other s := by
  obtain rfl : (fun s => (body s).mapEvents f) = other := funext drained
  unfold within
  dsimp only
  split
  next => rfl
  next =>
    generalize seen (Patience.ofSeconds timeout) s = s
    obtain ⟨outcome, events⟩ := body s
    cases outcome with
    | ok a => rfl
    | error e =>
      cases e with
      | raised kind text => cases kind <;> rfl
      | cancelled =>
        dsimp only [Run.mapEvents]
        split <;> rfl
      | _ => rfl

theorem Completion.reauthorized_reading (timeout : Float) (c : Coordinator) (other : String) :
    (reading timeout c (credentialInterceptors other)).mapEvents (Event.reauthorized token) =
      reading timeout c (credentialInterceptors token) :=
  Stream.mapEvents_within _ _ _
    (fun _ => Client.mapEvents_send (Stream.mapEvents_drain _ _ _) _ _ _ _ _) _

theorem Completion.fetchNames_reauthorized (files : Files) (s : Settings) (timeout : Float)
    (c : Coordinator) :
    (fetchNames files s timeout c).mapEvents (Event.reauthorized token) =
      fetchNames files { s with apiToken := token } timeout c := by
  rw [fetchNames_eq, Run.mapEvents_map]
  exact congrArg (namesOf <$> ·) (Channel.mapEvents_withOpen _ _ _ _ _
    (reauthorized_reading timeout c s.apiToken))

/-- With another token an errand does the same, with its call authorized by that token. -/
theorem Errand.run_reauthorized (e : Errand) (files : Files) (s : Settings) (c : Coordinator) :
    (e.run files s c).mapEvents (Event.reauthorized token) =
      e.run files { s with apiToken := token } c := by
  cases e with
  | command kind =>
    have performed : (kind.perform files s c).mapEvents (Event.reauthorized token) =
        kind.perform files { s with apiToken := token } c := kind.perform_reauthorized files s c
    have tags : kind.tagged ∘ Event.reauthorized token = Event.reauthorized token ∘ kind.tagged :=
      funext kind.tagged_reauthorized
    simp only [run, Command.dispatch]
    rw [Run.mapEvents_mapEvents, ← tags, ← Run.mapEvents_mapEvents, Run.reauthorized_recover,
      Run.mapEvents_map, performed]
    intro e handled caught
    cases e with
    | refused cause =>
      cases caught
      exact (Run.leaves_emit trivial).bind fun _ => Run.leaves_nothing _ _
    | _ => cases caught
  | names timeout => exact Completion.fetchNames_reauthorized files s timeout c
  | completion incomplete =>
    have fetched : (Completion.fetchNames files s Completion.defaultTimeout c).mapEvents
        (Event.reauthorized token) = Completion.fetchNames files { s with apiToken := token }
        Completion.defaultTimeout c := Completion.fetchNames_reauthorized files s _ c
    simp only [run, Session.withoutComplaints, Session.offered]
    rw [Run.reauthorized_recover, Run.mapEvents_bind, fetched]
    · rfl
    · intro e handled caught
      obtain ⟨text, _, rfl⟩ := Option.map_eq_some_iff.1 caught
      exact (Run.leaves_emit trivial).bind fun _ => Run.leaves_nothing _ _

theorem Event.pick_reauthorized {pick : Event → Option β} (blind : ∀ call, pick (.sent call) = none)
    (event : Event) : pick (event.reauthorized token) = pick event := by
  cases event with
  | sent call => exact (blind _).trans (blind call).symm
  | _ => rfl

theorem Run.observe_reauthorized {pick : Event → Option β}
    (blind : ∀ call, pick (.sent call) = none) (r : Run α) :
    (r.mapEvents (Event.reauthorized token)).events.filterMap pick = r.events.filterMap pick := by
  rw [mapEvents, List.filterMap_map]
  exact List.filterMap_congr fun event _ => Event.pick_reauthorized blind event

theorem Run.calls_reauthorized (r : Run α) :
    (r.mapEvents (Event.reauthorized token)).calls = r.calls.map fun call =>
      { call with metadata := call.metadata.withAuthorization token } := by
  rw [calls_eq, calls_eq, mapEvents]
  induction r.events with
  | nil => rfl
  | cons event events ih =>
    cases event <;> simp [Event.reauthorized, Event.call?, List.filterMap_cons, ih]

theorem Client.sentCall_alikeBut (first second : String) (metadata : Metadata) (method : Method)
    (request : List UInt8) :
    SentCall.AlikeBut first second (sentCall first metadata method request)
      { sentCall first metadata method request with metadata :=
          (sentCall first metadata method request).metadata.withAuthorization second } where
  method := rfl
  request := rfl
  metadata := by
    have last := Metadata.withAuthorization_withAuthorization first second metadata
    refine ⟨metadata.otherKeys.flatMap metadata.entriesOf,
      metadata.authorizationKey_not_mem_others, ?_, ?_⟩
    · exact Metadata.withAuthorization_eq first metadata
    · exact last.trans (Metadata.withAuthorization_eq second metadata)

/-- The token is in the authorization of a call and nowhere else. -/
theorem token_undisclosed (e : Errand) (files : Files) (s : Settings) (token : String)
    (c : Coordinator) :
    Run.AlikeBut s.apiToken token (e.run files s c)
      (e.run files { s with apiToken := token } c) := by
  have same : (e.run files s c).mapEvents (Event.reauthorized token) =
      e.run files { s with apiToken := token } c := e.run_reauthorized files s c
  have observe {γ : Type} (pick : Event → Option γ) (blind : ∀ call, pick (.sent call) = none) :
      (e.run files s c).events.filterMap pick =
        (e.run files { s with apiToken := token } c).events.filterMap pick := by
    rw [← same, Run.observe_reauthorized blind]
  have closed : (e.run files s c).closings = ((e.run files s c).mapEvents
      (Event.reauthorized token)).closings := by
    rw [Run.closings_eq, Run.closings_eq, Run.mapEvents, List.countP_map]
    congr 1
    funext event
    cases event <;> rfl
  have ended : ((e.run files s c).mapEvents (Event.reauthorized token)).outcome =
      (e.run files { s with apiToken := token } c).outcome := congrArg Run.outcome same
  refine {
    outcome := ended
    output := congrArg String.join (observe _ fun _ => rfl)
    logs := observe _ fun _ => rfl
    channels := observe _ fun _ => rfl
    closings := closed.trans (congrArg Run.closings same)
    calls := ?_
    others := observe }
  rw [← same, Run.calls_reauthorized, List.forall₂_map_right_iff, List.forall₂_same]
  intro call sent
  -- Every call of the run was authorized with the token of its own settings.
  obtain ⟨_, method, request, _, rfl⟩ := Errand.sends_of_call sent
  exact Client.sentCall_alikeBut _ _ _ _ _

end BackupConsole
