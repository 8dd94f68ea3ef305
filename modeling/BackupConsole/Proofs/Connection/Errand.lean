import BackupConsole.Session
import BackupConsole.Proofs.Connection.Course
import BackupConsole.Proofs.Listing.Stages
import BackupConsole.Proofs.Operation.Stages
import BackupConsole.Proofs.Stream.Trace

set_option autoImplicit false

namespace BackupConsole

open Contract (Method)

def Channel.Ready (s : Settings) (readiness : Readiness) : Prop :=
  (Patience.ofSeconds s.connectTimeout).outlasts readiness.prompt readiness.ending = true ∧
    readiness.ending = .complete

theorem Channel.Ready.not_late {s : Settings} {readiness : Readiness} (ready : Ready s readiness) :
    ¬ Late s readiness := by
  rintro (given_up | ⟨text, timedOut⟩)
  · cases ready.1.symm.trans given_up
  · cases ready.2.symm.trans timedOut

theorem Channel.outcome_await_iff {s : Settings} {readiness : Readiness} :
    (await s readiness).outcome = .ok () ↔ Ready s readiness := by
  unfold Ready
  by_cases late : Late s readiness
  · rw [await_of_late late]
    obtain given_up | ⟨text, timedOut⟩ := late
    · simp [Run.fail, given_up]
    · simp [Run.fail, timedOut]
  · rw [await_of_timely late]
    have outlasted := Bool.not_eq_false _ ▸ (not_or.1 late).1
    cases ending : readiness.ending <;>
      simp_all [Ending.act, Run.fail, Run.pure_def]

theorem Channel.leaves_await {kind : Event → Prop} (waited : kind .waited) {s : Settings}
    {readiness : Readiness}
    (signal : ¬ Late s readiness → readiness.ending = .interrupted → kind .signal) :
    (await s readiness).Leaves kind := by
  by_cases late : Late s readiness
  · rw [await_of_late late]
    exact Run.leaves_nothing _ _
  · rw [await_of_timely late]
    exact Stream.leaves_act waited (signal late)

theorem Command.aside_tagged (command : Command) {event : Event} (aside : event.Aside) :
    (command.tagged event).Aside := by
  cases event <;> simp_all [Event.Aside, tagged]

namespace Connection

variable {α β : Type} {terms : Terms} {first last : Phase}

def Phase.InUse (phase : Phase) : Prop := phase = .connected ∨ phase = .calling

def Phase.AtRest (phase : Phase) : Prop := phase = .apart ∨ phase = .closed

theorem course_closed (inUse : first.InUse) : Course terms first [.closed] .closed := by
  rcases inUse with rfl | rfl
  · exact .cons .closedUnused .nil
  · exact .cons .closedUsed .nil

theorem course_bind {r : Run α} {f : α → Run β} (course : Course terms first r.events last)
    (aside : ∀ a, (f a).Leaves Event.Aside) : Course terms first (r >>= f).events last := by
  cases h : r.outcome with
  | error e =>
    rw [Run.bind_of_error h]
    exact course
  | ok a =>
    rw [Run.bind_of_ok h]
    exact course.append (course_of_aside (aside a) last)

theorem course_recover {r : Run α} {handle : Failure → Option (Run α)}
    (course : Course terms first r.events last)
    (aside : ∀ e handled, handle e = some handled → handled.Leaves Event.Aside) :
    Course terms first (r.recover handle).events last := by
  rcases r.recover_cases handle with same | ⟨e, handled, _, caught, recovered⟩
  · rw [same]
    exact course
  · rw [recovered]
    exact course.append (course_of_aside (aside e handled caught) last)

theorem course_tagged {events : List Event} (course : Course terms first events last)
    (command : Command) : Course terms first (events.map command.tagged) last := by
  induction course with
  | nil => exact .nil
  | cons step rest ih =>
    refine .cons ?_ ih
    cases step with
    | aside aside => exact .aside (command.aside_tagged aside)
    | opened may => exact .opened may
    | sent may => exact .sent may
    | read => exact .read
    | cancel => exact .cancel
    | closedUnused => exact .closedUnused
    | closedUsed => exact .closedUsed

theorem course_of_left {r : Run α} (left : r.Leaves Stream.Left) :
    Course terms .calling r.events .calling := by
  unfold Run.Leaves at left
  generalize r.events = events at left
  induction events with
  | nil => exact .nil
  | cons event events ih =>
    obtain ⟨own, others⟩ := List.forall_mem_cons.1 left
    have step : Step terms .calling event .calling := by
      cases event with
      | read => exact .read
      | cancel released => exact .cancel
      | log record => exact .aside trivial
      | signal => exact .aside trivial
      | waited => exact .aside trivial
      | _ => cases own
    exact .cons step (ih others)

theorem course_withOpen {files : Files} {s : Settings} {readiness : Readiness}
    (body : List (Interceptor String) → Run α)
    (used : Channel.Ready s readiness → ∃ phase, phase.InUse ∧
      Course terms .connected (body (credentialInterceptors s.apiToken)).events phase)
    (may : ∀ params, channelParams files s = .ok params → terms.opens params) :
    ∃ phase, phase.AtRest ∧
      Course terms .apart (Channel.withOpen files s readiness body).events phase := by
  cases opened : channelParams files s with
  | error e =>
    rw [Channel.withOpen_of_error opened]
    exact ⟨.apart, .inl rfl, .nil⟩
  | ok params =>
    have waiting : Course terms .connected (Channel.await s readiness).events .connected :=
      course_of_aside (Channel.leaves_await trivial fun _ _ => trivial) .connected
    refine ⟨.closed, .inr rfl, ?_⟩
    cases ready : (Channel.await s readiness).outcome with
    | error e =>
      rw [Channel.withOpen_of_unready opened ready]
      have closed : Course terms .connected [.closed] .closed := course_closed (.inl rfl)
      exact .cons (.opened (may params opened)) (.cons (.aside trivial) (waiting.append closed))
    | ok done =>
      rw [Channel.withOpen_of_ready opened ready]
      obtain ⟨phase, inUse, during⟩ := used (Channel.outcome_await_iff.1 ready)
      have closing := during.append (course_closed inUse)
      exact .cons (.opened (may params opened)) (.cons (.aside trivial)
        (waiting.append (.cons (.aside trivial) closing)))

theorem course_send (shape : CallShape) {token : String} {metadata : Metadata} {method : Method}
    {request : List UInt8} {answer : Run α}
    (may : terms.sends (Client.sentCall token metadata method request))
    (answered : Course terms .calling answer.events .calling) :
    Course terms .connected (Client.send (credentialInterceptors token) shape metadata method
      request answer).events .calling := by
  rw [Client.send_eq]
  exact .cons (.aside trivial) (.cons (.sent may) answered)

theorem course_collected {l : Listing} {token : String} {c : Coordinator}
    (may : terms.sends (Client.sentCall token c.metadata l.method [])) :
    Course terms .connected (l.collected (credentialInterceptors token) c).events .calling :=
  course_bind (course_send .stream may (course_of_left (Stream.leaves_drain _ _ _)))
    fun _ => Run.leaves_nothing _ _

theorem course_listed {complaint : String} {r : Run α} (course : Course terms first r.events last) :
    Course terms first (Command.listed complaint r).events last := by
  have found : Course terms first (some <$> r).events last := by
    rw [Run.map_eq]
    exact course
  refine course_recover found fun e handled caught => ?_
  cases e with
  | refused cause =>
    simp only at caught
    split at caught <;> cases caught
    exact (Run.leaves_emit trivial).bind fun _ => Run.leaves_nothing _ _
  | _ => cases caught

theorem course_operate {token : String} {c : Coordinator} {method : Method} {request : List UInt8}
    (may : terms.sends (Client.sentCall token c.metadata method request)) :
    Course terms .connected (Client.operate (credentialInterceptors token) c method request).events
      .calling := by
  have answered : Course terms .calling (do
      c.operation.act
      let _ ← Run.ofExcept (received .runOperationResponse c.reply)
      return ()).events .calling :=
    course_bind (course_of_left (Stream.leaves_act trivial fun _ => trivial)) fun _ =>
      (Run.leaves_nothing _ _).bind fun _ => Run.leaves_nothing _ _
  refine course_recover (course_send .unary may answered) fun e handled caught => ?_
  cases e with
  | rpc e =>
    cases caught
    exact Run.leaves_nothing _ _
  | _ => cases caught

end Connection

theorem Output.leaves_write {kind : Event → Prop} (noted : ∀ record, kind (.log record))
    (wrote : ∀ text, kind (.wrote text)) (output : Output) : output.write.Leaves kind := by
  cases output with
  | line message => exact Run.leaves_emit (wrote _)
  | layout t data =>
    exact (Run.leaves_nothing _ _).bind fun _ => (Run.leaves_emit (wrote _)).bind fun _ =>
      Run.leaves_emit (noted _)

theorem Output.aside_write (output : Output) : output.write.Leaves Event.Aside :=
  output.leaves_write (fun _ => trivial) fun _ => trivial

namespace Command

def method? : Command → Option Method
  | listNodes => some .getClients
  | listBackups => some .backupsMetadata
  | listStorage => some .listStorages
  | runBackup => some .runBackup
  | runRestore => some .runRestore
  | showVersion => none

def request (s : Settings) : Command → Except Cause (List UInt8)
  | runBackup => Operation.backup.request s
  | runRestore => Operation.restore.request s
  | _ => .ok []

theorem kinds (command : Command) :
    (∃ l : Listing, command = l.command) ∨ (∃ op : Operation, command = op.command) ∨
      command = .showVersion := by
  cases command with
  | listNodes => exact .inl ⟨.nodes, rfl⟩
  | listBackups => exact .inl ⟨.backups, rfl⟩
  | listStorage => exact .inl ⟨.storage, rfl⟩
  | runBackup => exact .inr (.inl ⟨.backup, rfl⟩)
  | runRestore => exact .inr (.inl ⟨.restore, rfl⟩)
  | showVersion => exact .inr (.inr rfl)

end Command

theorem Listing.method?_command (l : Listing) : l.command.method? = some l.method := by
  cases l <;> rfl

theorem Listing.request_command (l : Listing) (s : Settings) : l.command.request s = .ok [] := by
  cases l <;> rfl

theorem Operation.method?_command (op : Operation) : op.command.method? = some op.method := by
  cases op <;> rfl

theorem Operation.request_command (op : Operation) (s : Settings) :
    op.command.request s = op.request s := by
  cases op <;> rfl

namespace Completion

def reading (timeout : Float) (c : Coordinator)
    (interceptors : List (Interceptor String)) : Run (List BackupEntry) :=
  Stream.within timeout "available backups"
    (fun backups => Client.send interceptors .stream c.metadata .backupsMetadata []
      (Stream.drain "available backups" Client.backupEntry backups)) c.backups

def namesOf (entries : List BackupEntry) : List (String × String) :=
  (Mapping.ofPairs (· == ·) (entries.map fun e => (e.filename, e.description))).mergeSort
    fun a b => !decide (b.1 < a.1)

theorem fetchNames_eq (files : Files) (s : Settings) (timeout : Float) (c : Coordinator) :
    fetchNames files s timeout c = namesOf <$> Channel.withOpen files
      { s with connectTimeout := lesser s.connectTimeout timeout } c.readiness
      (reading timeout c) := rfl

end Completion

/-- What the coordinator can be asked for: a command, the names of backups within some time, or the
backups that a name may be completed to. -/
inductive Errand
  | command (kind : Command)
  | names (timeout : Float)
  | completion (incomplete : String)

namespace Errand

@[reducible]
def Answer : Errand → Type
  | command _ => Nat
  | names _ | completion _ => List (String × String)

def run (files : Files) (s : Settings) (c : Coordinator) : (e : Errand) → Run e.Answer
  | command kind => kind.dispatch files s c
  | names timeout => Completion.fetchNames files s timeout c
  | completion incomplete => Session.withoutComplaints (Session.offered files s c incomplete)

def settings (s : Settings) : Errand → Settings
  | command _ => s
  | names timeout => { s with connectTimeout := Completion.lesser s.connectTimeout timeout }
  | completion _ =>
    { s with connectTimeout := Completion.lesser s.connectTimeout Completion.defaultTimeout }

def method? : Errand → Option Method
  | command kind => kind.method?
  | names _ | completion _ => some .backupsMetadata

def request (s : Settings) : Errand → Except Cause (List UInt8)
  | command kind => kind.request s
  | names _ | completion _ => .ok []

structure Asks (e : Errand) (s : Settings) (method : Method) (request : List UInt8) : Prop where
  own : e.method? = some method
  made : e.request s = .ok request

/-- The connection of an errand: the channel of its settings, and once that is ready its own call,
authorized. -/
def terms (e : Errand) (files : Files) (s : Settings) (c : Coordinator) : Connection.Terms where
  opens params := channelParams files s = .ok params ∧ ∃ method request, e.Asks s method request
  sends call := Channel.Ready (e.settings s) c.readiness ∧ ∃ method request,
    e.Asks s method request ∧ call = Client.sentCall s.apiToken c.metadata method request

open Connection

theorem course_perform (kind : Command) (files : Files) (s : Settings) (c : Coordinator) :
    ∃ phase : Phase, phase.AtRest ∧ Course ((command kind).terms files s c) .apart
      (kind.perform files s c).events phase := by
  rcases kind.kinds with ⟨l, rfl⟩ | ⟨op, rfl⟩ | rfl
  · have asks : (command l.command).Asks s l.method [] :=
      ⟨l.method?_command, l.request_command s⟩
    have used (ready : Channel.Ready s c.readiness) : ∃ phase : Phase, phase.InUse ∧
        Course ((command l.command).terms files s c) .connected
          (l.listed c (credentialInterceptors s.apiToken)).events phase :=
      ⟨.calling, .inr rfl, course_listed (course_collected ⟨ready, _, _, asks, rfl⟩)⟩
    rw [l.perform_eq]
    obtain ⟨phase, rests, course⟩ := course_withOpen (l.listed c) used
      fun _ opened => ⟨opened, _, _, asks⟩
    refine ⟨phase, rests, course_bind course fun found => ?_⟩
    cases found with
    | none => exact Run.leaves_nothing _ _
    | some collection => exact (l.shown s collection).aside_write
  · rw [op.perform_eq]
    cases made : op.request s with
    | error cause => exact ⟨.apart, .inl rfl, .nil⟩
    | ok bytes =>
      have asks : (command op.command).Asks s op.method bytes :=
        ⟨op.method?_command, (op.request_command s).trans made⟩
      have used (ready : Channel.Ready s c.readiness) : ∃ phase : Phase, phase.InUse ∧
          Course ((command op.command).terms files s c) .connected (do
            Run.emit (.log (op.notice s))
            Client.operate (credentialInterceptors s.apiToken) c op.method bytes).events phase :=
        ⟨.calling, .inr rfl, .cons (.aside trivial)
          (course_operate ⟨ready, _, _, asks, rfl⟩)⟩
      rw [Run.ofCause_bind]
      obtain ⟨phase, rests, course⟩ := course_withOpen (fun interceptors => do
        Run.emit (.log (op.notice s))
        Client.operate interceptors c op.method bytes) used fun _ opened => ⟨opened, _, _, asks⟩
      exact ⟨phase, rests, course_bind course fun _ => Output.aside_write _⟩
  · exact ⟨.apart, .inl rfl, course_of_aside (Output.aside_write _) .apart⟩

theorem course_names {terms : Terms} {files : Files} {s : Settings} {timeout : Float}
    {c : Coordinator} (sends : Channel.Ready ((names timeout).settings s) c.readiness →
      terms.sends (Client.sentCall s.apiToken c.metadata .backupsMetadata []))
    (may : ∀ params, channelParams files s = .ok params → terms.opens params) :
    ∃ phase : Phase, phase.AtRest ∧ Course terms .apart
      (Completion.fetchNames files s timeout c).events phase := by
  have used (ready : Channel.Ready ((names timeout).settings s) c.readiness) :
      ∃ phase : Phase, phase.InUse ∧ Course terms .connected
        (Completion.reading timeout c (credentialInterceptors s.apiToken)).events phase := by
    unfold Completion.reading
    by_cases never : timeout ≤ 0.0
    · simp only [Stream.within, Patience.ofSeconds_eq_none_iff.2 never, if_true]
      exact ⟨.connected, .inl rfl, .nil⟩
    · rw [Stream.events_within never]
      exact ⟨.calling, .inr rfl, course_send .stream (sends ready)
        (course_of_left (Stream.leaves_drain _ _ _))⟩
  obtain ⟨phase, rests, course⟩ := course_withOpen (Completion.reading timeout c) used may
  exact ⟨phase, rests, course_bind course fun _ => Run.leaves_nothing _ _⟩

theorem course_run (e : Errand) (files : Files) (s : Settings) (c : Coordinator) :
    ∃ phase : Phase, phase.AtRest ∧ Course (e.terms files s c) .apart
      (e.run files s c).events phase := by
  cases e with
  | command kind =>
    obtain ⟨phase, rests, course⟩ := course_perform kind files s c
    refine ⟨phase, rests, course_tagged (course_recover ?_ fun e handled caught => ?_) kind⟩
    · rw [Run.map_eq]
      exact course
    · cases e with
      | refused cause =>
        cases caught
        exact (Run.leaves_emit trivial).bind fun _ => Run.leaves_nothing _ _
      | _ => cases caught
  | names timeout =>
    exact course_names (fun ready => ⟨ready, _, _, ⟨rfl, rfl⟩, rfl⟩)
      fun _ opened => ⟨opened, _, _, rfl, rfl⟩
  | completion incomplete =>
    obtain ⟨phase, rests, course⟩ : ∃ phase : Phase, phase.AtRest ∧
        Course ((completion incomplete).terms files s c) .apart
          (Completion.fetchNames files s Completion.defaultTimeout c).events phase :=
      course_names (fun ready => ⟨ready, _, _, ⟨rfl, rfl⟩, rfl⟩)
        fun _ opened => ⟨opened, _, _, rfl, rfl⟩
    have offered := course_bind course fun names =>
      Run.leaves_nothing Event.Aside (.ok (Session.suggestions incomplete names))
    refine ⟨phase, rests, course_recover offered fun e handled caught => ?_⟩
    obtain ⟨text, _, rfl⟩ := Option.map_eq_some_iff.1 caught
    exact (Run.leaves_emit trivial).bind fun _ => Run.leaves_nothing _ _

theorem opens_of_channel {e : Errand} {files : Files} {s : Settings} {c : Coordinator}
    {params : ChannelParams} (opened : params ∈ (e.run files s c).channels) :
    (e.terms files s c).opens params := by
  obtain ⟨_, _, course⟩ := e.course_run files s c
  exact course.permitted.1 params opened

theorem sends_of_call {e : Errand} {files : Files} {s : Settings} {c : Coordinator}
    {call : SentCall} (sent : call ∈ (e.run files s c).calls) : (e.terms files s c).sends call := by
  obtain ⟨_, _, course⟩ := e.course_run files s c
  exact course.permitted.2 call sent

end Errand

end BackupConsole
