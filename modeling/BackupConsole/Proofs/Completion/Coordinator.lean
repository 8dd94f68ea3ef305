import BackupConsole.Proofs.CommandLine.Unfinished
import BackupConsole.Proofs.Completion.Tolerance
import BackupConsole.Proofs.Number.NotANumber
import BackupConsole.Proofs.Operation.Sent

set_option autoImplicit false

namespace BackupConsole

variable {α β γ : Type}

def Event.Unasking : Event → Prop
  | opened _ | sent _ => False
  | _ => True

theorem Event.Aside.unasking {event : Event} (aside : event.Aside) : event.Unasking := by
  cases event <;> trivial

namespace Run

variable {pick : Event → Option γ} (blind : ∀ event : Event, event.Unasking → pick event = none)
include blind

theorem observe_of_unasking {events : List Event} (unasking : ∀ event ∈ events, event.Unasking) :
    events.filterMap pick = [] :=
  List.filterMap_eq_nil_iff.2 fun event member => blind event (unasking event member)

theorem observe_bind {r : Run α} {f : α → Run β} (after : ∀ a, (f a).Leaves Event.Unasking) :
    (r >>= f).events.filterMap pick = r.events.filterMap pick := by
  cases h : r.outcome with
  | error e => rw [bind_of_error h]
  | ok a =>
    rw [bind_of_ok h, List.filterMap_append, observe_of_unasking blind (after a),
      List.append_nil]

theorem observe_recover {r : Run α} {handle : Failure → Option (Run α)}
    (after : ∀ e next, handle e = some next → next.Leaves Event.Unasking) :
    (r.recover handle).events.filterMap pick = r.events.filterMap pick := by
  rcases r.recover_cases handle with same | ⟨e, next, _, handled, recovered⟩
  · rw [same]
  · rw [recovered, List.filterMap_append, observe_of_unasking blind (after e next handled),
      List.append_nil]

theorem observe_withOpen_congr {files : Files} {s t : Settings} {readiness : Readiness}
    {used : List (Interceptor String) → Run α} {used' : List (Interceptor String) → Run β}
    (opened : channelParams files s = channelParams files t)
    (ready : Channel.Ready s readiness ↔ Channel.Ready t readiness)
    (uses : (used (credentialInterceptors s.apiToken)).events.filterMap pick =
      (used' (credentialInterceptors t.apiToken)).events.filterMap pick) :
    (Channel.withOpen files s readiness used).events.filterMap pick =
      (Channel.withOpen files t readiness used').events.filterMap pick := by
  have waited (s : Settings) : (Channel.await s readiness).events.filterMap pick = [] :=
    Channel.observe_await pick (blind _ trivial) (blind _ trivial) s readiness
  have closed : pick .closed = none := blind _ trivial
  have connecting (s : Settings) : pick (Channel.connecting s) = none := blind _ trivial
  have connected (s : Settings) : pick (Channel.connected s) = none := blind _ trivial
  cases params : channelParams files s with
  | error e =>
    rw [Channel.withOpen_of_error params, Channel.withOpen_of_error (opened ▸ params)]
  | ok params' =>
    by_cases early : Channel.Ready s readiness
    · rw [Channel.withOpen_of_ready params (Channel.outcome_await_iff.2 early),
        Channel.withOpen_of_ready (opened ▸ params) (Channel.outcome_await_iff.2 (ready.1 early))]
      simp [List.filterMap_cons, waited, closed, connecting, connected, uses]
    · have unready {s : Settings} (late : ¬ Channel.Ready s readiness) :
          ∃ e, (Channel.await s readiness).outcome = .error e := by
        cases outcome : (Channel.await s readiness).outcome with
        | ok done => exact absurd (Channel.outcome_await_iff.1 outcome) late
        | error e => exact ⟨e, rfl⟩
      obtain ⟨e, late⟩ := unready early
      obtain ⟨e', late'⟩ := unready (ready.not.1 early)
      rw [Channel.withOpen_of_unready params late,
        Channel.withOpen_of_unready (opened ▸ params) late']
      simp [List.filterMap_cons, waited, closed, connecting]

end Run

def Number.Least (t a b : Float) : Prop := (t = a ∨ t = b) ∧ t ≤ a ∧ t ≤ b

theorem Completion.lesser_least {a b : Float} (first : a ≤ a) (second : b ≤ b) :
    Number.Least (lesser a b) a b := by
  unfold lesser
  split
  next less => exact ⟨.inr rfl, Number.le_of_lt less, second⟩
  next least => exact ⟨.inl rfl, first, Number.le_of_not_lt first second least⟩

theorem Completion.positive_lesser_iff {a b : Float} (some : ¬ a ≤ 0.0) (positive : 0.0 < b) :
    0.0 < lesser a b ↔ 0.0 < a := by
  unfold lesser
  split
  next less =>
    have number : a.isNaN = false := (Number.isNaN_of_lt less).2
    exact iff_of_true positive (Number.lt_of_not_le number (by decide) some)
  next => exact Iff.rfl

namespace Session

open CommandLine (Globals Slot)

variable {world : World} {c : Coordinator} {globals : Globals} {files : Files} {s : Settings}
  {pick : Event → Option γ}

theorem ready_hurried_iff (made : s.Made) {readiness : Readiness} :
    Channel.Ready s readiness ↔ Channel.Ready (hurried s) readiness := by
  have limit : (0.0 : Float) < Completion.defaultTimeout := by decide
  have timely : ¬ (hurried s).connectTimeout ≤ 0.0 :=
    Completion.lesser_timely made.timely (Number.not_le_of_lt limit)
  have positive : 0.0 < (hurried s).connectTimeout ↔ 0.0 < s.connectTimeout :=
    Completion.positive_lesser_iff made.timely limit
  refine and_congr_left fun complete => ?_
  rw [complete, Patience.outlasts_complete_iff made.timely, Patience.outlasts_complete_iff timely,
    positive]

theorem events_reading (token : String) (c : Coordinator) :
    (Completion.reading Completion.defaultTimeout c (credentialInterceptors token)).events =
      (Client.send (credentialInterceptors token) .stream c.metadata .backupsMetadata []
        (Stream.drain "available backups" Client.backupEntry c.backups)).events := by
  have positive : (0.0 : Float) < Completion.defaultTimeout := by decide
  rw [Completion.reading, Stream.events_within (Number.not_le_of_lt positive),
    Stream.seen_of_positive positive]

section

variable (blind : ∀ event : Event, event.Unasking → pick event = none)
include blind

theorem observe_listed (token : String) (c : Coordinator) :
    (Listing.backups.listed c (credentialInterceptors token)).events.filterMap pick =
      (Completion.reading Completion.defaultTimeout c
        (credentialInterceptors token)).events.filterMap pick := by
  have collected :
      (Listing.backups.collected (credentialInterceptors token) c).events.filterMap pick =
        (Completion.reading Completion.defaultTimeout c
          (credentialInterceptors token)).events.filterMap pick := by
    rw [events_reading]
    exact Run.observe_bind blind fun _ => Run.leaves_nothing _ _
  rw [Listing.listed, Command.listed, Run.observe_recover blind, Run.map_eq, collected]
  intro e next handled
  cases e with
  | refused cause =>
    simp only at handled
    split at handled <;> cases handled
    exact (Run.leaves_emit trivial).bind fun _ => Run.leaves_nothing _ _
  | _ => cases handled

theorem observe_complete (completing : Completing world globals s files) (c : Coordinator)
    (p : String) : (complete world c globals p).run.events.filterMap pick =
      (Command.listBackups.perform files s c).events.filterMap pick := by
  have offers : (withoutComplaints (offered files s c p)).events.filterMap pick =
      (Channel.withOpen files (hurried s) c.readiness
        (Completion.reading Completion.defaultTimeout c)).events.filterMap pick := by
    rw [withoutComplaints, Run.observe_recover blind, offered, Run.observe_bind blind,
      fetchNames_hurried, Run.map_eq]
    · exact fun _ => Run.leaves_nothing _ _
    · intro e next handled
      obtain ⟨text, _, rfl⟩ := Option.map_eq_some_iff.1 handled
      exact (Run.leaves_emit trivial).bind fun _ => Run.leaves_nothing _ _
  have lists : (Command.listBackups.perform files s c).events.filterMap pick =
      (Channel.withOpen files s c.readiness (Listing.backups.listed c)).events.filterMap pick := by
    rw [show Command.listBackups = Listing.backups.command from rfl, Listing.perform_eq,
      Run.observe_bind blind]
    intro found
    cases found with
    | none => exact Run.leaves_nothing _ _
    | some collection => exact fun event member => (Output.aside_write _ event member).unasking
  rw [complete_of_completing completing, offers, lists]
  exact (Run.observe_withOpen_congr blind (channelParams_hurried files s).symm
    (ready_hurried_iff completing.made) (observe_listed blind s.apiToken c)).symm

end

def listing (args : List String) : List String := args ++ ["list", "backups"]

def typedBefore (args : List String) : Globals := .ofUnfinished (args ++ ["run", "restore"])

/-- Listing and completion both come to this when they resolve their settings. -/
structure ResolveAlike (world : World) (args : List String) (r : Except Failure Settings) :
    Prop where
  listed : ∃ i, CommandLine.parse (listing args) = .ok i ∧ i.command = .listBackups ∧
    i.settings world = r
  completed : (typedBefore args).settings world [] = r

/-- What the coordinator sees of both, and how long each waits for it. -/
structure AsksAlike (world : World) (c : Coordinator) (args : List String) : Prop where
  channels : ∀ p, (complete world c (typedBefore args) p).run.channels =
    (start world c (listing args)).run.channels
  calls : ∀ p, (complete world c (typedBefore args) p).run.calls =
    (start world c (listing args)).run.calls
  used : ∀ s files, Completing world (typedBefore args) s files → ∃ t : Float,
    (s.connectTimeout ≤ s.connectTimeout →
      Number.Least t s.connectTimeout Completion.defaultTimeout) ∧
    (start world c (listing args)).run = runCommand files s c .listBackups ∧
    ∀ p, (complete world c (typedBefore args) p).run =
        withoutComplaints (suggestions p <$> Completion.namesOf <$>
          Channel.withOpen files { s with connectTimeout := t } c.readiness
            (Completion.reading Completion.defaultTimeout c)) ∧
      (∀ params ∈ (complete world c (typedBefore args) p).run.channels,
        channelParams files s = .ok params) ∧
      ∀ call ∈ (complete world c (typedBefore args) p).run.calls,
        call = Client.sentCall s.apiToken c.metadata .backupsMetadata []

structure SameCoordinator (world : World) (c : Coordinator) (args : List String) : Prop where
  settled : (∃ s, ResolveAlike world args (.ok s)) ∨
    ∃ cause, ResolveAlike world args (.error (.refused cause)) ∧
      ∀ p, (complete world c (typedBefore args) p).run.outcome = .ok []
  asks : AsksAlike world c args

section

variable {args : List String} {values : List (Slot × Given)}
  (accepted : CommandLine.read CommandLine.globalSwitches false args = .ok (values, []))
include accepted

theorem typedBefore_eq : typedBefore args = .ofValues values :=
  CommandLine.ofUnfinished_append accepted (by decide) (by decide) _

theorem resolveAlike : ResolveAlike world args ((typedBefore args).settings world []) := by
  refine ⟨⟨_, CommandLine.parse_listBackups accepted, rfl, ?_⟩, rfl⟩
  rw [typedBefore_eq accepted]
  rfl

theorem prepared_of_completing (completing : Completing world (typedBefore args) s files) :
    Prepared world (listing args) ⟨.ofValues values, .listBackups, []⟩ s files := by
  obtain ⟨resolved, logged⟩ := completing
  rw [typedBefore_eq accepted] at resolved
  exact ⟨CommandLine.parse_listBackups accepted, resolved, logged, rfl⟩

theorem completing_of_prepared {i : CommandLine.Invocation}
    (prepared : Prepared world (listing args) i s files) :
    Completing world (typedBefore args) s files := by
  obtain ⟨parsed, resolved, logged, _⟩ := prepared
  cases (CommandLine.parse_listBackups accepted).symm.trans parsed
  rw [typedBefore_eq accepted]
  exact ⟨resolved, logged⟩

theorem start_of_completing (completing : Completing world (typedBefore args) s files)
    (c : Coordinator) :
    (start world c (listing args)).run = runCommand files s c .listBackups := by
  have prepared := prepared_of_completing accepted completing
  rcases run_start world c (listing args) with ⟨i, t, others, also, ran⟩ | ⟨outcome, not, _⟩
  · obtain ⟨rfl, rfl, rfl⟩ := prepared.unique also
    exact ran
  · exact absurd prepared not.not_prepared

theorem observe_start {pick : Event → Option γ}
    (blind : ∀ event : Event, event.Unasking → pick event = none) (c : Coordinator) (p : String) :
    (complete world c (typedBefore args) p).run.events.filterMap pick =
      (start world c (listing args)).run.events.filterMap pick := by
  by_cases completes : ∃ s files, Completing world (typedBefore args) s files
  · obtain ⟨s, files, completing⟩ := completes
    rw [observe_complete blind completing, start_of_completing accepted completing,
      observe_runCommand fun record => blind _ trivial]
  · -- Where one of them gets no further than its settings or its log, neither does.
    have unstarted : (start world c (listing args)).run.events = [] := by
      rcases run_start world c (listing args) with ⟨i, t, others, prepared, _⟩ | ⟨_, _, ran⟩
      · exact absurd ⟨t, others, completing_of_prepared accepted prepared⟩ completes
      · rw [ran]
    rcases run_complete world c (typedBefore args) with ⟨s, files, completing, _⟩ | ⟨e, failed⟩
    · exact absurd ⟨s, files, completing⟩ completes
    · rw [failed, unstarted, withoutComplaints, Run.observe_recover blind]
      · rfl
      · intro e next handled
        obtain ⟨text, _, rfl⟩ := Option.map_eq_some_iff.1 handled
        exact (Run.leaves_emit trivial).bind fun _ => Run.leaves_nothing _ _

theorem asksAlike (world : World) (c : Coordinator) : AsksAlike world c args where
  channels p := by
    refine observe_start accepted (fun event unasking => ?_) c p
    cases event <;> first | rfl | cases unasking
  calls p := by
    refine observe_start accepted (fun event unasking => ?_) c p
    cases event <;> first | rfl | cases unasking
  used s files completing := by
    refine ⟨(hurried s).connectTimeout, fun number => ?_, start_of_completing accepted completing c,
      fun p => ⟨?_, ?_, ?_⟩⟩
    · exact Completion.lesser_least number (by decide)
    · rw [complete_of_completing completing, offered, fetchNames_hurried, map_eq_pure_bind]
      rfl
    · intro params opened
      rw [complete_of_completing completing] at opened
      exact (Errand.opens_of_channel (e := .completion p) opened).1
    · intro call sent
      rw [complete_of_completing completing] at sent
      obtain ⟨_, method, request, asks, rfl⟩ := Errand.sends_of_call (e := .completion p) sent
      obtain ⟨own, made⟩ := asks
      cases own
      cases made
      rfl

end

end Session

end BackupConsole
