import BackupConsole.Proofs.Command.Dispatch
import BackupConsole.Proofs.Connection.Errand
import BackupConsole.Proofs.Listing.Shown

set_option autoImplicit false

namespace BackupConsole

variable {α β : Type}

def Event.isLoud : Event → Bool
  | wrote _ => true
  | log record => record.level == .error
  | _ => false

def Event.Quiet (event : Event) : Prop := event.isLoud = false

def Event.text? : Event → Option String
  | wrote text => some text
  | _ => none

def Event.record? : Event → Option LogRecord
  | log record => some record
  | _ => none

namespace Run

def heard (r : Run α) : List Event := r.events.filter Event.isLoud

def errors (r : Run α) : List LogRecord := r.logs.filter fun record => record.level == .error

theorem output_eq_heard (r : Run α) : r.output = String.join (r.heard.filterMap Event.text?) := by
  rw [output, heard, List.filterMap_filter]
  congr 2
  funext event
  cases event with
  | log record => cases record.level == .error <;> simp [Event.isLoud, Event.text?]
  | _ => rfl

theorem errors_eq_heard (r : Run α) : r.errors = r.heard.filterMap Event.record? := by
  rw [errors, logs, heard, List.filterMap_filter, List.filter_filterMap]
  congr 1
  funext event
  cases event with
  | log record =>
    cases loud : record.level == .error <;>
      simp [Event.isLoud, Event.record?, Option.filter, loud]
  | _ => rfl

theorem heard_of_leaves {r : Run α} (quiet : r.Leaves Event.Quiet) : r.heard = [] := by
  refine List.filter_eq_nil_iff.2 fun event member => ?_
  have unheard : event.isLoud = false := quiet event member
  simp [unheard]

theorem heard_bind_of_ok {r : Run α} {a : α} (ok : r.outcome = .ok a) (f : α → Run β) :
    (r >>= f).heard = r.heard ++ (f a).heard := by
  rw [bind_of_ok ok]
  exact List.filter_append ..

end Run

theorem Stream.Left.quiet {event : Event} (left : Left event) : event.Quiet := by
  cases event with
  | log record =>
    have debug : record.level = .debug := left
    simp [Event.Quiet, Event.isLoud, debug]
  | wrote text => cases left
  | _ => rfl

namespace Channel

/-- The channel is opened, and ready within its time. -/
def Reached (files : Files) (s : Settings) (readiness : Readiness) : Prop :=
  (∃ params, channelParams files s = .ok params) ∧ Ready s readiness

variable {files : Files} {s : Settings} {readiness : Readiness}

theorem heard_await (s : Settings) (readiness : Readiness) : (await s readiness).heard = [] := by
  have quiet : Event.Quiet .waited ∧ Event.Quiet .signal := ⟨rfl, rfl⟩
  exact Run.heard_of_leaves (leaves_await quiet.1 fun _ _ => quiet.2)

theorem heard_withOpen_of_unready {params : ChannelParams} {e : Failure}
    (opened : channelParams files s = .ok params)
    (unready : (await s readiness).outcome = .error e)
    (body : List (Interceptor String) → Run α) :
    (withOpen files s readiness body).heard = [] := by
  have waiting : (await s readiness).events.filter Event.isLoud = [] := heard_await s readiness
  rw [withOpen_of_unready opened unready]
  simp [Run.heard, Event.isLoud, connecting, waiting]

theorem outcome_withOpen_of_reached (reached : Reached files s readiness)
    (body : List (Interceptor String) → Run α) :
    (withOpen files s readiness body).outcome =
      (body (credentialInterceptors s.apiToken)).outcome := by
  obtain ⟨⟨params, opened⟩, ready⟩ := reached
  rw [withOpen_of_ready opened (outcome_await_iff.2 ready)]

theorem outcome_withOpen_eq_ok_iff {body : List (Interceptor String) → Run α} {a : α} :
    (withOpen files s readiness body).outcome = .ok a ↔
      Reached files s readiness ∧ (body (credentialInterceptors s.apiToken)).outcome = .ok a := by
  cases opened : channelParams files s with
  | error e =>
    rw [withOpen_of_error opened]
    refine iff_of_false (fun ended => by cases ended) fun ended => ?_
    obtain ⟨⟨params, also⟩, _⟩ := ended.1
    cases opened.symm.trans also
  | ok params =>
    cases ready : (await s readiness).outcome with
    | error e =>
      rw [withOpen_of_unready opened ready]
      refine iff_of_false (fun ended => by cases ended) fun ended => ?_
      cases ready.symm.trans (outcome_await_iff.2 ended.1.2)
    | ok done =>
      have reached : Reached files s readiness := ⟨⟨params, opened⟩, outcome_await_iff.1 ready⟩
      rw [outcome_withOpen_of_reached reached, and_iff_right reached]

theorem heard_withOpen_of_reached (reached : Reached files s readiness)
    (body : List (Interceptor String) → Run α) :
    (withOpen files s readiness body).heard =
      (body (credentialInterceptors s.apiToken)).heard := by
  obtain ⟨⟨params, opened⟩, ready⟩ := reached
  have waiting : (await s readiness).events.filter Event.isLoud = [] := heard_await s readiness
  rw [withOpen_of_ready opened (outcome_await_iff.2 ready)]
  simp [Run.heard, Event.isLoud, connecting, connected, waiting]

end Channel

theorem Output.write_of_text {output : Output} {text : String} (written : output.text = .ok text) :
    output.write.outcome = .ok () ∧ output.write.heard = [.wrote text] := by
  cases output with
  | line message =>
    cases written
    exact ⟨rfl, rfl⟩
  | layout t data =>
    have rendered : Layout.render t data = .ok text := written
    rw [write, rendered]
    exact ⟨rfl, rfl⟩

theorem Output.write_of_error {output : Output} {e : Failure} (unwritten : output.text = .error e) :
    output.write = .fail e := by
  cases output with
  | line message => cases unwritten
  | layout t data =>
    have rendered : Layout.render t data = .error e := unwritten
    rw [write, rendered]
    rfl

namespace Listing

def Reads (l : Listing) (c : Coordinator) : Except Failure (List l.Item) → Prop :=
  Stream.Drained l.subject l.convert (l.script c)

def report (l : Listing) (cause : Cause) : LogRecord where
  level := .error
  logger := Command.logger
  event := l.complaint
  fields := [("error", .text cause.message), ("code", .text cause.code)]

variable {l : Listing} {files : Files} {s : Settings} {c : Coordinator}

theorem convert_error {bytes : List UInt8} {e : Failure} (failed : l.convert bytes = .error e) :
    e = .malformedMessage := by
  have undecoded {t : Contract.MessageType} {ρ : Type} {f : Contract.Msg t → ρ}
      (failed : (received t bytes).map f = .error e) : e = .malformedMessage := by
    unfold received at failed
    split at failed <;> cases failed
    rfl
  cases l with
  | nodes => exact undecoded failed
  | backups => exact undecoded failed
  | storage => exact undecoded failed

theorem category_of_reads {cause : Cause} (failed : l.Reads c (.error (.refused cause))) :
    cause.category = .stream := by
  generalize told : (Except.error (.refused cause) : Except Failure (List l.Item)) = outcome
    at failed
  -- Neither a conversion nor an ending is refused by itself: only what the drain tells of them is.
  cases failed with
  | whole converted ended closed => cases told
  | unclosed converted ended fault =>
    cases told
    rfl
  | broken first =>
    cases first with
    | item place converted fails =>
      rw [convert_error fails] at told
      cases told
    | @ending bs e converted fails =>
      cases ending : (l.script c).ending <;> rw [ending] at fails <;> cases fails <;> cases told
      rfl

theorem leaves_collected (l : Listing) (token : String) (c : Coordinator) :
    (l.collected (credentialInterceptors token) c).Leaves Event.Quiet := by
  refine Run.Leaves.bind (fun event member => ?_) fun _ => Run.leaves_nothing _ _
  rw [Client.send_eq] at member
  rcases List.mem_cons.1 member with rfl | member
  · rfl
  · rcases List.mem_cons.1 member with rfl | member
    · rfl
    · exact (Stream.leaves_drain _ _ _ event member).quiet

theorem outcome_collected (l : Listing) (token : String) (c : Coordinator) :
    (l.collected (credentialInterceptors token) c).outcome =
      (l.drained c).outcome >>= l.arrange := by
  rw [collected, Run.outcome_bind, Client.send_eq]
  rfl

theorem outcome_collected_of_error {e : Failure} (failed : l.Reads c (.error e)) (token : String) :
    (l.collected (credentialInterceptors token) c).outcome = .error e := by
  rw [outcome_collected, drained, Stream.outcome_drain_iff.2 failed]
  rfl

theorem heard_collected (l : Listing) (token : String) (c : Coordinator) :
    (l.collected (credentialInterceptors token) c).heard = [] :=
  Run.heard_of_leaves (l.leaves_collected token c)

theorem listed_of_unread {cause : Cause} (failed : l.Reads c (.error (.refused cause)))
    (token : String) :
    (l.listed c (credentialInterceptors token)).outcome = .ok none ∧
      (l.listed c (credentialInterceptors token)).heard = [.log (l.report cause)] := by
  have found : (some <$> l.collected (credentialInterceptors token) c).outcome =
      .error (.refused cause) := by
    rw [Run.map_eq, outcome_collected_of_error failed]
    rfl
  have ofListing : Command.isListingFailure cause = true := by
    simp [Command.isListingFailure, category_of_reads failed]
  have unheard : (l.collected (credentialInterceptors token) c).events.filter Event.isLoud = [] :=
    l.heard_collected token c
  rw [listed, Command.listed, Run.recover_of_some found (if_pos ofListing), Run.map_eq]
  refine ⟨rfl, ?_⟩
  rw [Run.heard, List.filter_append, unheard]
  rfl

theorem listed_of_broken {e : Failure} (failed : l.Reads c (.error e))
    (foreign : ∀ cause, e ≠ .refused cause) (token : String) :
    (l.listed c (credentialInterceptors token)).outcome = .error e ∧
      (l.listed c (credentialInterceptors token)).heard = [] := by
  have found : (some <$> l.collected (credentialInterceptors token) c).outcome = .error e := by
    rw [Run.map_eq, outcome_collected_of_error failed]
    rfl
  have uncaught : l.listed c (credentialInterceptors token) =
      some <$> l.collected (credentialInterceptors token) c := by
    refine Run.recover_of_none found ?_
    cases e <;> simp_all
  rw [uncaught]
  refine ⟨found, ?_⟩
  rw [Run.map_eq]
  exact l.heard_collected token c

theorem listed_of_read {items : List l.Item} {collection : l.Collection}
    (read : l.Reads c (.ok items)) (arranged : l.arrange items = .ok collection) (token : String) :
    (l.listed c (credentialInterceptors token)).outcome = .ok (some collection) ∧
      (l.listed c (credentialInterceptors token)).heard = [] := by
  have found : (some <$> l.collected (credentialInterceptors token) c).outcome =
      .ok (some collection) := by
    rw [Run.map_eq, outcome_collected, drained, Stream.outcome_drain_iff.2 read]
    exact congrArg (Except.map some) arranged
  rw [listed, Command.listed, Run.recover_of_ok found]
  refine ⟨found, ?_⟩
  rw [Run.map_eq]
  exact l.heard_collected token c

section Perform

variable (reached : Channel.Reached files s c.readiness)
include reached

theorem perform_of_unread {cause : Cause} (failed : l.Reads c (.error (.refused cause))) :
    (l.command.perform files s c).outcome = .ok () ∧
      (l.command.perform files s c).heard = [.log (l.report cause)] := by
  obtain ⟨outcome, heard⟩ := listed_of_unread failed s.apiToken
  rw [← Channel.outcome_withOpen_of_reached reached (l.listed c)] at outcome
  rw [← Channel.heard_withOpen_of_reached reached (l.listed c)] at heard
  rw [l.perform_eq, Run.heard_bind_of_ok outcome, Run.bind_of_ok outcome, heard]
  exact ⟨rfl, rfl⟩

theorem perform_of_broken {e : Failure} (failed : l.Reads c (.error e))
    (foreign : ∀ cause, e ≠ .refused cause) :
    (l.command.perform files s c).outcome = .error e ∧
      (l.command.perform files s c).heard = [] := by
  obtain ⟨outcome, heard⟩ := listed_of_broken failed foreign s.apiToken
  rw [← Channel.outcome_withOpen_of_reached reached (l.listed c)] at outcome
  rw [← Channel.heard_withOpen_of_reached reached (l.listed c)] at heard
  rw [l.perform_eq, Run.bind_of_error outcome]
  exact ⟨rfl, heard⟩

theorem perform_of_read {items : List l.Item} {collection : l.Collection}
    (read : l.Reads c (.ok items)) (arranged : l.arrange items = .ok collection) :
    (l.command.perform files s c).outcome = (l.shown s collection).write.outcome ∧
      (l.command.perform files s c).heard = (l.shown s collection).write.heard := by
  obtain ⟨outcome, heard⟩ := listed_of_read read arranged s.apiToken
  rw [← Channel.outcome_withOpen_of_reached reached (l.listed c)] at outcome
  rw [← Channel.heard_withOpen_of_reached reached (l.listed c)] at heard
  rw [l.perform_eq, Run.heard_bind_of_ok outcome, Run.bind_of_ok outcome, heard]
  exact ⟨rfl, rfl⟩

end Perform

theorem perform_of_unopened {e : Failure} (unopened : channelParams files s = .error e) :
    (l.command.perform files s c).outcome = .error e ∧
      (l.command.perform files s c).heard = [] := by
  rw [l.perform_eq, Channel.withOpen_of_error unopened]
  exact ⟨rfl, rfl⟩

theorem perform_of_unready {params : ChannelParams} {e : Failure}
    (opened : channelParams files s = .ok params)
    (unready : (Channel.await s c.readiness).outcome = .error e) :
    (l.command.perform files s c).outcome = .error e ∧
      (l.command.perform files s c).heard = [] := by
  have unheard := Channel.heard_withOpen_of_unready opened unready (l.listed c)
  rw [Run.heard, Channel.withOpen_of_unready opened unready] at unheard
  rw [l.perform_eq, Channel.withOpen_of_unready opened unready]
  exact ⟨rfl, unheard⟩

inductive Ends (l : Listing) (files : Files) (s : Settings) (c : Coordinator) :
    Except Failure Unit → List Event → Prop
  | unopened {e : Failure} (unopened : channelParams files s = .error e) :
      Ends l files s c (.error e) []
  | unready {params : ChannelParams} {e : Failure} (opened : channelParams files s = .ok params)
      (unready : (Channel.await s c.readiness).outcome = .error e) : Ends l files s c (.error e) []
  | unread {cause : Cause} (reached : Channel.Reached files s c.readiness)
      (failed : l.Reads c (.error (.refused cause))) :
      Ends l files s c (.ok ()) [.log (l.report cause)]
  | broken {e : Failure} (reached : Channel.Reached files s c.readiness)
      (failed : l.Reads c (.error e)) (foreign : ∀ cause, e ≠ .refused cause) :
      Ends l files s c (.error e) []
  | unshown {items : List l.Item} {collection : l.Collection} {e : Failure}
      (reached : Channel.Reached files s c.readiness) (read : l.Reads c (.ok items))
      (arranged : l.Arranged items collection)
      (unwritten : (l.shown s collection).text = .error e) : Ends l files s c (.error e) []
  | shown {items : List l.Item} {collection : l.Collection} {text : String}
      (reached : Channel.Reached files s c.readiness) (read : l.Reads c (.ok items))
      (arranged : l.Arranged items collection) (shows : Shows s l collection text) :
      Ends l files s c (.ok ()) [.wrote text]

theorem ends (l : Listing) (files : Files) (s : Settings) (c : Coordinator) :
    l.Ends files s c (l.command.perform files s c).outcome (l.command.perform files s c).heard := by
  -- The stages in their order: each is looked at only where all before it went well.
  cases opened : channelParams files s with
  | error e =>
    obtain ⟨outcome, heard⟩ := perform_of_unopened (l := l) (c := c) opened
    rw [outcome, heard]
    exact .unopened opened
  | ok params =>
    cases ready : (Channel.await s c.readiness).outcome with
    | error e =>
      obtain ⟨outcome, heard⟩ := perform_of_unready (l := l) opened ready
      rw [outcome, heard]
      exact .unready opened ready
    | ok done =>
      have reached : Channel.Reached files s c.readiness :=
        ⟨⟨params, opened⟩, Channel.outcome_await_iff.1 ready⟩
      cases drained : (l.drained c).outcome with
      | error e =>
        have failed : l.Reads c (.error e) := Stream.outcome_drain_iff.1 drained
        by_cases told : ∃ cause, e = .refused cause
        · obtain ⟨cause, rfl⟩ := told
          obtain ⟨outcome, heard⟩ := perform_of_unread reached failed
          rw [outcome, heard]
          exact .unread reached failed
        · have foreign : ∀ cause, e ≠ .refused cause := fun cause same => told ⟨cause, same⟩
          obtain ⟨outcome, heard⟩ := perform_of_broken reached failed foreign
          rw [outcome, heard]
          exact .broken reached failed foreign
      | ok items =>
        have read : l.Reads c (.ok items) := Stream.outcome_drain_iff.1 drained
        obtain ⟨collection, arrange, arranged⟩ := l.arrange_arranged items
        obtain ⟨outcome, heard⟩ := perform_of_read reached read arrange
        rw [outcome, heard]
        cases written : (l.shown s collection).text with
        | error e =>
          rw [Output.write_of_error written]
          exact .unshown reached read arranged written
        | ok text =>
          obtain ⟨outcome, heard⟩ := Output.write_of_text written
          rw [outcome, heard]
          exact .shown reached read arranged (shown_text_iff.1 written)

end Listing

end BackupConsole
