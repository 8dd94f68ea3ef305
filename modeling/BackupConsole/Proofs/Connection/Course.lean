import BackupConsole.Proofs.Run

/-!
The way of a connection. It is opened at most once, one call goes over it, and it is closed once,
with nothing of its call left to come. `Step` says what one event may do, `Course` what a run may;
the counts of a course follow from those of its steps.
-/

set_option autoImplicit false

namespace BackupConsole

namespace Event

def Aside : Event → Prop
  | log _ | signal | waited | wrote _ | mark _ => True
  | opened _ | closed | sent _ | read | cancel _ => False

def channel? : Event → Option ChannelParams
  | opened params => some params
  | _ => none

def call? : Event → Option SentCall
  | sent call => some call
  | _ => none

def isClosed : Event → Bool
  | closed => true
  | _ => false

theorem Aside.unobserved {event : Event} (aside : event.Aside) :
    event.channel? = none ∧ event.call? = none ∧ event.isClosed = false := by
  cases event <;> simp_all [Aside, channel?, call?, isClosed]

end Event

namespace Run

variable {α β : Type}

theorem channels_eq (r : Run α) : r.channels = r.events.filterMap Event.channel? := rfl

theorem calls_eq (r : Run α) : r.calls = r.events.filterMap Event.call? := rfl

theorem closings_eq (r : Run α) : r.closings = r.events.countP Event.isClosed := rfl

def Leaves (kind : Event → Prop) (r : Run α) : Prop := ∀ event ∈ r.events, kind event

theorem leaves_nothing (kind : Event → Prop) (outcome : Except Failure α) :
    Leaves kind ⟨outcome, []⟩ := by
  intro event member
  cases member

theorem leaves_emit {kind : Event → Prop} {event : Event} (of_kind : kind event) :
    (emit event).Leaves kind := by
  intro other member
  rw [List.mem_singleton.1 member]
  exact of_kind

theorem Leaves.bind {kind : Event → Prop} {r : Run α} {f : α → Run β} (first : r.Leaves kind)
    (next : ∀ a, (f a).Leaves kind) : (r >>= f).Leaves kind := by
  intro event member
  cases h : r.outcome with
  | error e =>
    rw [bind_of_error h] at member
    exact first event member
  | ok a =>
    rw [bind_of_ok h] at member
    rcases List.mem_append.1 member with member | member
    · exact first event member
    · exact next a event member

theorem Leaves.recover {kind : Event → Prop} {r : Run α} {handle : Failure → Option (Run α)}
    (first : r.Leaves kind) (next : ∀ e handled, handle e = some handled → handled.Leaves kind) :
    (r.recover handle).Leaves kind := by
  intro event member
  rcases recover_cases r handle with same | ⟨e, handled, _, caught, recovered⟩
  · rw [same] at member
    exact first event member
  · rw [recovered] at member
    rcases List.mem_append.1 member with member | member
    · exact first event member
    · exact next e handled caught event member

theorem Leaves.untouched {r : Run α} (aside : r.Leaves Event.Aside) :
    r.channels = [] ∧ r.calls = [] := by
  rw [channels_eq, calls_eq]
  constructor
  · exact List.filterMap_eq_nil_iff.2 fun event member => (aside event member).unobserved.1
  · exact List.filterMap_eq_nil_iff.2 fun event member => (aside event member).unobserved.2.1

end Run

namespace Connection

inductive Phase
  | apart
  | connected
  | calling
  | closed
  deriving DecidableEq, Repr

structure Terms where
  opens : ChannelParams → Prop
  sends : SentCall → Prop

inductive Step (terms : Terms) : Phase → Event → Phase → Prop
  | aside {phase : Phase} {event : Event} (aside : event.Aside) : Step terms phase event phase
  | opened {params : ChannelParams} (may : terms.opens params) :
      Step terms .apart (.opened params) .connected
  | sent {call : SentCall} (may : terms.sends call) : Step terms .connected (.sent call) .calling
  | read : Step terms .calling .read .calling
  | cancel {released : Bool} : Step terms .calling (.cancel released) .calling
  | closedUnused : Step terms .connected .closed .closed
  | closedUsed : Step terms .calling .closed .closed

inductive Course (terms : Terms) : Phase → List Event → Phase → Prop
  | nil {phase : Phase} : Course terms phase [] phase
  | cons {first next last : Phase} {event : Event} {events : List Event}
      (step : Step terms first event next) (rest : Course terms next events last) :
      Course terms first (event :: events) last

variable {terms : Terms} {first next last : Phase}

theorem Course.append {before after : List Event} (course : Course terms first before next)
    (rest : Course terms next after last) : Course terms first (before ++ after) last := by
  induction course with
  | nil => exact rest
  | cons step _ ih => exact .cons step (ih rest)

theorem Course.split {before after : List Event}
    (course : Course terms first (before ++ after) last) :
    ∃ next, Course terms first before next ∧ Course terms next after last := by
  -- By induction on the first part: the phase in between is the one that it leaves off in.
  induction before generalizing first with
  | nil => exact ⟨first, .nil, course⟩
  | cons event before ih =>
    cases course with
    | cons step rest =>
      obtain ⟨next, before, after⟩ := ih rest
      exact ⟨next, .cons step before, after⟩

theorem course_of_aside {events : List Event} (aside : ∀ event ∈ events, event.Aside)
    (phase : Phase) : Course terms phase events phase := by
  induction events with
  | nil => exact .nil
  | cons event events ih =>
    have rest := ih fun other member => aside other (List.mem_cons_of_mem _ member)
    exact .cons (.aside (aside event List.mem_cons_self)) rest

theorem Course.aside_of_closed {events : List Event} (course : Course terms .closed events last) :
    last = .closed ∧ ∀ event ∈ events, event.Aside := by
  induction events with
  | nil =>
    cases course
    exact ⟨rfl, by simp⟩
  | cons event events ih =>
    cases course with
    | cons step rest =>
      cases step with
      | aside aside =>
        obtain ⟨same, asides⟩ := ih rest
        exact ⟨same, List.forall_mem_cons.2 ⟨aside, asides⟩⟩

theorem Course.aside_of_apart {events : List Event} (course : Course terms first events .apart) :
    first = .apart ∧ ∀ event ∈ events, event.Aside := by
  induction events generalizing first with
  | nil =>
    cases course
    exact ⟨rfl, by simp⟩
  | cons event events ih =>
    cases course with
    | cons step rest =>
      obtain ⟨rfl, asides⟩ := ih rest
      cases step with
      | aside aside => exact ⟨rfl, List.forall_mem_cons.2 ⟨aside, asides⟩⟩

theorem Course.after_closed {before after : List Event}
    (course : Course terms first (before ++ .closed :: after) last) :
    ∀ event ∈ after, event.Aside := by
  obtain ⟨next, _, rest⟩ := course.split
  -- Closing leads to the closed phase, whichever phase it was done in.
  cases rest with
  | cons step rest =>
    cases step with
    | aside aside => cases aside
    | closedUnused => exact rest.aside_of_closed.2
    | closedUsed => exact rest.aside_of_closed.2

theorem Course.before_opened {before after : List Event} {params : ChannelParams}
    (course : Course terms first (before ++ .opened params :: after) last) :
    ∀ event ∈ before, event.Aside := by
  obtain ⟨next, before, rest⟩ := course.split
  cases rest with
  | cons step rest =>
    cases step with
    | aside aside => cases aside
    | opened may => exact before.aside_of_apart.2

namespace Phase

def channels : Phase → Nat
  | apart => 0
  | connected | calling | closed => 1

def closings : Phase → Nat
  | apart | connected | calling => 0
  | closed => 1

def callsLeft : Phase → Nat
  | apart | connected => 1
  | calling | closed => 0

end Phase

theorem Step.tally {event : Event} (step : Step terms first event next) :
    next.channels = first.channels + [event].countP (·.channel?.isSome) ∧
    next.closings = first.closings + [event].countP Event.isClosed ∧
    next.callsLeft + [event].countP (·.call?.isSome) ≤ first.callsLeft := by
  cases step with
  | aside aside =>
    obtain ⟨unopened, unsent, unclosed⟩ := aside.unobserved
    simp [unopened, unsent, unclosed]
  | opened may => exact ⟨rfl, rfl, Nat.le_refl _⟩
  | sent may => exact ⟨rfl, rfl, Nat.le_refl _⟩
  | read => exact ⟨rfl, rfl, Nat.le_refl _⟩
  | cancel => exact ⟨rfl, rfl, Nat.le_refl _⟩
  | closedUnused => exact ⟨rfl, rfl, Nat.zero_le _⟩
  | closedUsed => exact ⟨rfl, rfl, Nat.le_refl _⟩

theorem Course.tally {events : List Event} (course : Course terms first events last) :
    last.channels = first.channels + (events.filterMap Event.channel?).length ∧
    last.closings = first.closings + events.countP Event.isClosed ∧
    last.callsLeft + (events.filterMap Event.call?).length ≤ first.callsLeft := by
  -- By induction on the course, the counts of its first step apart from those of the rest.
  simp only [List.length_filterMap_eq_countP]
  induction course with
  | nil => simp
  | @cons first next last event events step rest ih =>
    have split (p : Event → Bool) :
        (event :: events).countP p = [event].countP p + events.countP p := by
      rw [← List.countP_append, List.singleton_append]
    obtain ⟨channels, closings, calls⟩ := step.tally
    rw [split, split, split]
    omega

theorem Step.permitted {event : Event} (step : Step terms first event next) :
    (∀ params, event.channel? = some params → terms.opens params) ∧
    ∀ call, event.call? = some call → terms.sends call := by
  cases step with
  | aside aside =>
    obtain ⟨unopened, unsent, _⟩ := aside.unobserved
    simp [unopened, unsent]
  | opened may => simpa [Event.channel?, Event.call?] using may
  | sent may => simpa [Event.channel?, Event.call?] using may
  | read => simp [Event.channel?, Event.call?]
  | cancel => simp [Event.channel?, Event.call?]
  | closedUnused => simp [Event.channel?, Event.call?]
  | closedUsed => simp [Event.channel?, Event.call?]

theorem Course.permitted {events : List Event} (course : Course terms first events last) :
    (∀ params ∈ events.filterMap Event.channel?, terms.opens params) ∧
    ∀ call ∈ events.filterMap Event.call?, terms.sends call := by
  simp only [List.mem_filterMap]
  induction course with
  | nil => simp
  | cons step rest ih =>
    obtain ⟨opens, sends⟩ := step.permitted
    constructor
    · rintro params ⟨event, member, seen⟩
      rcases List.mem_cons.1 member with rfl | member
      · exact opens params seen
      · exact ih.1 params ⟨event, member, seen⟩
    · rintro call ⟨event, member, seen⟩
      rcases List.mem_cons.1 member with rfl | member
      · exact sends call seen
      · exact ih.2 call ⟨event, member, seen⟩

end Connection

end BackupConsole
