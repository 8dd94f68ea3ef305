import BackupConsole.Stream
import BackupConsole.Proofs.Number.Order
import BackupConsole.Proofs.Run
import Mathlib.Data.List.Forall2

set_option autoImplicit false

namespace BackupConsole

def Ending.failure? : Ending → Option Failure
  | complete => none
  | fails e => some (.rpc e)
  | breaks kind text => some (.raised kind text)
  | blocked => some .cancelled
  | interrupted => some .cancelled

def Script.closeFault? {α : Type} (s : Script α) : Option String :=
  if s.finishesAtEnd && !s.staysOpen then none else s.cancelFault

namespace Patience

variable {timeout : Float}

theorem ofSeconds_eq_none_iff : ofSeconds timeout = .none ↔ timeout ≤ 0.0 := by
  unfold ofSeconds
  repeat' split
  all_goals simp_all

theorem ofSeconds_of_positive (positive : 0.0 < timeout) :
    ofSeconds timeout = if timeout < Number.infinity then .limited else .endless := by
  unfold ofSeconds
  rw [if_neg (Number.not_le_of_lt positive), if_pos positive]

theorem outlasts_of_positive (positive : 0.0 < timeout) (prompt : Bool) {ending : Ending}
    (ends : ending ≠ .blocked) : (ofSeconds timeout).outlasts prompt ending = true := by
  rw [ofSeconds_of_positive positive]
  split
  next => simpa [outlasts] using ends
  next => rfl

theorem outlasts_complete_iff (some : ¬ timeout ≤ 0.0) {prompt : Bool} :
    (ofSeconds timeout).outlasts prompt .complete = true ↔ 0.0 < timeout ∨ prompt = true := by
  by_cases positive : 0.0 < timeout
  · simp [outlasts_of_positive positive, positive]
  · simp [ofSeconds, some, positive, outlasts]

end Patience

namespace Stream

variable {α β : Type}

def Converted (convert : α → Except Failure β) (items : List α) (bs : List β) : Prop :=
  List.Forall₂ (fun item b => convert item = .ok b) items bs

/-- The failure that comes first in stream order: that of an item all before which convert, or that
of the ending after items that all convert. -/
inductive FailsFirst (convert : α → Except Failure β) (items : List α) (ending : Ending) :
    Failure → Prop
  | item {before after : List α} {a : α} {bs : List β} {e : Failure}
      (place : items = before ++ a :: after) (converted : Converted convert before bs)
      (fails : convert a = .error e) : FailsFirst convert items ending e
  | ending {bs : List β} {e : Failure} (converted : Converted convert items bs)
      (fails : ending.failure? = some e) : FailsFirst convert items ending e

def told (operation : String) : Failure → Failure
  | .rpc e => .refused (.streamFailed operation e)
  | e => e

inductive Drained (operation : String) (convert : α → Except Failure β) (s : Script α) :
    Except Failure (List β) → Prop
  | whole {bs : List β} (converted : Converted convert s.items bs)
      (ended : s.ending = .complete) (closed : s.closeFault? = none) :
      Drained operation convert s (.ok bs)
  | unclosed {bs : List β} {text : String} (converted : Converted convert s.items bs)
      (ended : s.ending = .complete) (fault : s.closeFault? = some text) :
      Drained operation convert s (.error (.refused (.streamUnclosed operation text)))
  | broken {e : Failure} (first : FailsFirst convert s.items s.ending e) :
      Drained operation convert s (.error (told operation e))

theorem outcome_act (ending : Ending) :
    ending.act.outcome = match ending.failure? with
      | some e => .error e
      | none => .ok () := by
  cases ending <;> rfl

-- An observer that is blind to waiting and to signals sees nothing of how a call ends.
theorem observe_act {γ : Type} (pick : Event → Option γ) (waited : pick .waited = none)
    (signal : pick .signal = none) (ending : Ending) : ending.act.events.filterMap pick = [] := by
  cases ending <;> simp [Ending.act, Run.fail, Run.pure_def, waited, signal]

theorem failure?_eq_none_iff {ending : Ending} : ending.failure? = none ↔ ending = .complete := by
  cases ending <;> simp [Ending.failure?]

theorem receive_nil (convert : α → Except Failure β) (ending : Ending) :
    (receive convert ending []).outcome = match ending.failure? with
      | some e => .error e
      | none => .ok [] := by
  simp only [receive, Run.outcome_bind, Run.outcome_emit, outcome_act]
  cases ending.failure? <;> rfl

theorem receive_cons_error {convert : α → Except Failure β} {a : α} {e : Failure}
    (fails : convert a = .error e) (ending : Ending) (rest : List α) :
    (receive convert ending (a :: rest)).outcome = .error e := by
  simp only [receive, Run.outcome_bind, Run.outcome_emit, Run.outcome_ofExcept, fails]
  rfl

theorem receive_cons_ok {convert : α → Except Failure β} {a : α} {b : β}
    (converts : convert a = .ok b) (ending : Ending) (rest : List α) :
    (receive convert ending (a :: rest)).outcome =
      (receive convert ending rest).outcome.map (b :: ·) := by
  simp only [receive, Run.outcome_bind, Run.outcome_emit, Run.outcome_ofExcept, converts]
  cases (receive convert ending rest).outcome <;> rfl

theorem receive_eq_ok_iff {convert : α → Except Failure β} {ending : Ending} {items : List α}
    {bs : List β} :
    (receive convert ending items).outcome = .ok bs ↔
      Converted convert items bs ∧ ending = .complete := by
  unfold Converted
  induction items generalizing bs with
  | nil =>
    rw [receive_nil, ← failure?_eq_none_iff]
    cases ending.failure? <;> cases bs <;> simp
  | cons a rest ih =>
    cases h : convert a with
    | error e =>
      rw [receive_cons_error h]
      cases bs <;> simp [h]
    | ok b =>
      rw [receive_cons_ok h]
      cases bs with
      | nil => cases (receive convert ending rest).outcome <;> simp [Except.map]
      | cons c bs =>
        rw [List.forall₂_cons, h, and_assoc, ← ih]
        cases (receive convert ending rest).outcome <;> simp [Except.map]

theorem FailsFirst.cons {convert : α → Except Failure β} {a : α} {b : β} {items : List α}
    {ending : Ending} {e : Failure} (converts : convert a = .ok b)
    (first : FailsFirst convert items ending e) : FailsFirst convert (a :: items) ending e := by
  cases first with
  | item place converted fails =>
    subst place
    exact .item (List.cons_append ..).symm (.cons converts converted) fails
  | ending converted fails => exact .ending (.cons converts converted) fails

theorem receive_of_failsFirst {convert : α → Except Failure β} {items : List α} {ending : Ending}
    {e : Failure} (first : FailsFirst convert items ending e) :
    (receive convert ending items).outcome = .error e := by
  cases first with
  | item place converted fails =>
    subst place
    -- Items before the first failure hand on what the rest comes to.
    induction converted with
    | nil => exact receive_cons_error fails ending _
    | cons converts _ ih => rw [List.cons_append, receive_cons_ok converts, ih]; rfl
  | ending converted fails =>
    induction converted with
    | nil => rw [receive_nil, fails]
    | cons converts _ ih => rw [receive_cons_ok converts, ih]; rfl

theorem failsFirst_of_receive {convert : α → Except Failure β} {items : List α} {ending : Ending}
    {e : Failure} (failed : (receive convert ending items).outcome = .error e) :
    FailsFirst convert items ending e := by
  induction items with
  | nil =>
    rw [receive_nil] at failed
    cases h : ending.failure? with
    | none => simp [h] at failed
    | some first =>
      simp only [h, Except.error.injEq] at failed
      exact .ending .nil (h.trans (congrArg some failed))
  | cons a rest ih =>
    cases h : convert a with
    | error first =>
      rw [receive_cons_error h, Except.error.injEq] at failed
      exact .item (List.nil_append _).symm .nil (failed ▸ h)
    | ok b =>
      rw [receive_cons_ok h] at failed
      refine .cons h (ih ?_)
      cases rest : (receive convert ending rest).outcome with
      | error first => simpa [rest, Except.map] using failed
      | ok bs => simp [rest, Except.map] at failed

theorem closeAfterFailure_ok (operation : String) (s : Script α) (ended : Bool) :
    (closeAfterFailure operation s ended).outcome = .ok () := by
  unfold closeAfterFailure close
  split
  · rfl
  · cases s.cancelFault <;> rfl

theorem all_isOk_of_converted {convert : α → Except Failure β} {items : List α} {bs : List β}
    (converted : Converted convert items bs) :
    items.all (fun item => (convert item).isOk) = true := by
  induction converted with
  | nil => rfl
  | cons converts _ ih =>
    rw [List.all_cons, converts, ih]
    rfl

theorem isOver_of_converted {convert : α → Except Failure β} {s : Script α} {bs : List β}
    (converted : Converted convert s.items bs) (ended : s.ending = .complete) :
    isOver convert s = s.finishesAtEnd := by
  simp [isOver, all_isOk_of_converted converted, ended, Ending.finishes]

theorem close_of_closeFault {s : Script α} :
    (close s s.finishesAtEnd).outcome = match s.closeFault? with
      | some text => .error (.raised .other text)
      | none => .ok () := by
  unfold close Script.closeFault?
  split
  · rfl
  · cases s.cancelFault <;> rfl

theorem drain_of_failsFirst {operation : String} {convert : α → Except Failure β} {s : Script α}
    {e : Failure} (first : FailsFirst convert s.items s.ending e) :
    (drain operation convert s).outcome = .error (told operation e) := by
  have failed := receive_of_failsFirst first
  simp only [drain, failed, Run.outcome_bind, closeAfterFailure_ok]
  cases e <;> rfl

theorem drain_of_converted {operation : String} {convert : α → Except Failure β} {s : Script α}
    {bs : List β} (converted : Converted convert s.items bs) (ended : s.ending = .complete) :
    (drain operation convert s).outcome = match s.closeFault? with
      | some text => .error (.refused (.streamUnclosed operation text))
      | none => .ok bs := by
  have received := receive_eq_ok_iff.2 ⟨converted, ended⟩
  -- All items were converted, so whether the call is over is up to the ending alone.
  have closed := close_of_closeFault (s := s)
  simp only [drain, received, isOver_of_converted converted ended, Run.outcome_bind]
  cases h : s.closeFault? with
  | some text =>
    rw [h] at closed
    rw [Run.recover_of_some closed rfl]
    rfl
  | none =>
    rw [h] at closed
    rw [Run.recover_of_ok closed, closed]
    rfl

theorem outcome_drain_iff {operation : String} {convert : α → Except Failure β} {s : Script α}
    {outcome : Except Failure (List β)} :
    (drain operation convert s).outcome = outcome ↔ Drained operation convert s outcome := by
  constructor
  · rintro rfl
    -- Receiving decides first: a close can fail a drain only after all items were received.
    cases received : (receive convert s.ending s.items).outcome with
    | error e =>
      have first := failsFirst_of_receive received
      rw [drain_of_failsFirst first]
      exact .broken first
    | ok bs =>
      obtain ⟨converted, ended⟩ := receive_eq_ok_iff.1 received
      rw [drain_of_converted converted ended]
      cases h : s.closeFault? with
      | some text => exact .unclosed converted ended h
      | none => exact .whole converted ended h
  · intro drained
    cases drained with
    | whole converted ended closed => rw [drain_of_converted converted ended, closed]
    | unclosed converted ended fault => rw [drain_of_converted converted ended, fault]
    | broken first => exact drain_of_failsFirst first

theorem outcome_drain_eq_ok_iff {operation : String} {convert : α → Except Failure β}
    {s : Script α} {bs : List β} :
    (drain operation convert s).outcome = .ok bs ↔
      Converted convert s.items bs ∧ s.ending = .complete ∧ s.closeFault? = none := by
  rw [outcome_drain_iff]
  constructor
  · intro drained
    cases drained with
    | whole converted ended closed => exact ⟨converted, ended, closed⟩
  · rintro ⟨converted, ended, closed⟩
    exact .whole converted ended closed

theorem receive_congr {convert : α → Except Failure β} {items others : List α}
    (alike : List.Forall₂ (fun a b => convert b = convert a) items others)
    (ending : Ending) : receive convert ending others = receive convert ending items := by
  induction alike with
  | nil => rfl
  | cons first _ ih => simp only [receive, first, ih]

theorem all_isOk_congr {convert : α → Except Failure β} {items others : List α}
    (alike : List.Forall₂ (fun a b => convert b = convert a) items others) :
    others.all (fun item => (convert item).isOk) = items.all fun item => (convert item).isOk := by
  induction alike with
  | nil => rfl
  | cons first _ ih => rw [List.all_cons, List.all_cons, first, ih]

theorem drain_congr {convert : α → Except Failure β} {s : Script α} {others : List α}
    (alike : List.Forall₂ (fun a b => convert b = convert a) s.items others) (operation : String) :
    drain operation convert { s with items := others } = drain operation convert s := by
  have ended : isOver convert { s with items := others } = isOver convert s := by
    simp only [isOver, all_isOk_congr alike]
  simp only [drain, receive_congr alike, ended]
  rfl

variable {timeout : Float} {operation : String} {body : Script α → Run β} {s : Script α}

theorem seen_of_positive (positive : 0.0 < timeout) (s : Script α) :
    seen (Patience.ofSeconds timeout) s = s := by
  rw [seen, Patience.ofSeconds_of_positive positive]
  split <;> rfl

theorem within_of_positive (positive : 0.0 < timeout) :
    within timeout operation body s = match (body s).outcome with
      | .error (.raised .timeout _) =>
        ⟨.error (.refused (.streamTimedOut operation)), (body s).events⟩
      | .error .cancelled =>
        if (Patience.ofSeconds timeout).outlasts s.prompt s.ending then body s
        else ⟨.error (.refused (.streamTimedOut operation)), (body s).events⟩
      | _ => body s := by
  have timely : Patience.ofSeconds timeout ≠ .none :=
    fun none => Number.not_le_of_lt positive (Patience.ofSeconds_eq_none_iff.1 none)
  have begun : within timeout operation body s = _ := if_neg timely
  rwa [seen_of_positive positive] at begun

theorem within_eq_of_ends (positive : 0.0 < timeout)
    (ends : s.ending ≠ .blocked ∨ (body s).outcome ≠ .error .cancelled)
    (punctual : ∀ text, (body s).outcome ≠ .error (.raised .timeout text)) :
    within timeout operation body s = body s := by
  rw [within_of_positive positive]
  split
  next timedOut => exact absurd timedOut (punctual _)
  next cancelled =>
    exact if_pos (Patience.outlasts_of_positive positive _ (ends.resolve_right (· cancelled)))
  next => rfl

theorem within_of_timeout (positive : 0.0 < timeout) {text : String}
    (timedOut : (body s).outcome = .error (.raised .timeout text)) :
    (within timeout operation body s).outcome =
      .error (.refused (.streamTimedOut operation)) := by
  rw [within_of_positive positive, timedOut]

theorem within_of_blocked (positive : 0.0 < timeout) (finite : timeout < Number.infinity)
    (blocked : s.ending = .blocked) (cancelled : (body s).outcome = .error .cancelled) :
    (within timeout operation body s).outcome =
      .error (.refused (.streamTimedOut operation)) := by
  rw [within_of_positive positive, cancelled, Patience.ofSeconds_of_positive positive,
    if_pos finite, blocked]
  rfl

theorem outcome_within_eq_ok_iff {a : β} :
    (within timeout operation body s).outcome = .ok a ↔
      ¬ timeout ≤ 0.0 ∧ (body (seen (Patience.ofSeconds timeout) s)).outcome = .ok a := by
  rw [← Patience.ofSeconds_eq_none_iff]
  unfold within
  by_cases none : Patience.ofSeconds timeout = .none
  · simp [none]
  · simp only [none, ↓reduceIte, not_false_eq_true, true_and]
    split
    next timedOut => simp [timedOut]
    next cancelled =>
      split
      next => rfl
      next => simp [cancelled]
    next => rfl

/-- All of a stream that completes is there before it is given up. -/
def InTime (timeout : Float) (s : Script α) : Prop :=
  (Patience.ofSeconds timeout).outlasts s.prompt .complete = true

theorem inTime_of_positive (positive : 0.0 < timeout) (s : Script α) : InTime timeout s :=
  Patience.outlasts_of_positive positive _ (by decide)

theorem outcome_drain_seen_eq_ok_iff {operation : String} {convert : α → Except Failure β}
    {bs : List β} :
    ¬ timeout ≤ 0.0 ∧
        (drain operation convert (seen (Patience.ofSeconds timeout) s)).outcome = .ok bs ↔
      InTime timeout s ∧ (drain operation convert s).outcome = .ok bs := by
  rw [← Patience.ofSeconds_eq_none_iff, InTime]
  cases Patience.ofSeconds timeout with
  | none => simp [Patience.outlasts]
  | limited | endless => simp [Patience.outlasts, seen]
  | turn =>
    cases prompt : s.prompt with
    | true => simp [Patience.outlasts, seen, prompt]
    | false => simp [Patience.outlasts, seen, prompt, outcome_drain_eq_ok_iff]

/-- A drain hands on every item of a stream or fails with what went wrong first, and a limit of
time changes nothing about a stream that ends, unless the drain fails with a time-out itself. -/
structure AllOrNothing (operation : String) (convert : α → Except Failure β) (s : Script α) :
    Prop where
  drained : ∀ outcome, (drain operation convert s).outcome = outcome ↔
    Drained operation convert s outcome
  whole : ∀ bs, (drain operation convert s).outcome = .ok bs ↔
    Converted convert s.items bs ∧ s.ending = .complete ∧ s.closeFault? = none
  reported : ∀ fault, (Cause.streamFailed operation fault).report =
    .ofRpc .stream ("Cannot get the list of " ++ operation) fault
  detailed : ∀ fault details, RpcFault.details fault = some details → details ≠ "" →
    fault.describe = details
  unclosed : ∀ text, (Cause.streamUnclosed operation text).category = .stream
  timely : ∀ timeout : Float, 0.0 < timeout →
    s.ending ≠ .blocked ∨ (drain operation convert s).outcome ≠ .error .cancelled →
    (∀ text, (drain operation convert s).outcome ≠ .error (.raised .timeout text)) →
      within timeout operation (drain operation convert) s = drain operation convert s
  late : ∀ timeout : Float, 0.0 < timeout → ∀ text,
    (drain operation convert s).outcome = .error (.raised .timeout text) →
      (within timeout operation (drain operation convert) s).outcome =
        .error (.refused (.streamTimedOut operation))
  stopped : ∀ timeout : Float, 0.0 < timeout → timeout < Number.infinity → ∀ bs,
    Converted convert s.items bs → s.ending = .blocked →
      (within timeout operation (drain operation convert) s).outcome =
        .error (.refused (.streamTimedOut operation))

theorem drain_all_or_nothing (operation : String) (convert : α → Except Failure β)
    (s : Script α) : AllOrNothing operation convert s where
  drained _ := outcome_drain_iff
  whole _ := outcome_drain_eq_ok_iff
  reported _ := rfl
  detailed fault details given told := by simp [RpcFault.describe, given, told]
  unclosed _ := rfl
  timely _ := within_eq_of_ends
  late _ positive _ := within_of_timeout positive
  stopped _ positive finite bs converted blocked := by
    refine within_of_blocked positive finite blocked ?_
    exact drain_of_failsFirst (.ending converted (by rw [blocked]; rfl))

/-- The same without exceptions: the details are told even if they say nothing, and no failure is
taken for the end of the time. -/
structure AllToldAlike (operation : String) (convert : α → Except Failure β) (s : Script α) :
    Prop extends AllOrNothing operation convert s where
  every : ∀ fault details, RpcFault.details fault = some details →
    FailsFirst convert s.items s.ending (.rpc fault) → fault.describe = details
  alike : ∀ timeout : Float, 0.0 < timeout → s.ending ≠ .blocked →
    (within timeout operation (drain operation convert) s).outcome =
      (drain operation convert s).outcome

theorem not_all_told_alike :
    ¬ AllToldAlike "letters" (Except.ok : Nat → Except Failure Nat)
      { items := [], ending := .fails { code := some "UNAVAILABLE", details := some "" } } ∧
    ¬ AllToldAlike "letters" (Except.ok : Nat → Except Failure Nat)
      { items := [], ending := .breaks .timeout "timed out" } := by
  constructor
  · intro told
    have first : FailsFirst (Except.ok : Nat → Except Failure Nat) []
        (.fails { code := some "UNAVAILABLE", details := some "" })
        (.rpc { code := some "UNAVAILABLE", details := some "" }) := .ending .nil rfl
    have described := told.every _ "" rfl first
    exact RpcFault.describe_ne_empty _ described
  · intro told
    have positive : (0.0 : Float) < 3.0 := by decide
    have alike := told.alike 3.0 positive (by decide)
    have drained : (drain "letters" (Except.ok : Nat → Except Failure Nat)
        { items := [], ending := .breaks .timeout "timed out" }).outcome =
          .error (.raised .timeout "timed out") := rfl
    rw [told.late 3.0 positive _ drained, drained] at alike
    cases alike

theorem drain_second_item_fails :
    let convert : Nat → Except Failure Nat := fun n =>
      if n = 2 then .error (.raised .other "cannot convert 2") else .ok (10 * n)
    let s : Script Nat :=
      { items := [1, 2, 3], ending := .blocked, cancelFault := some "cannot cancel" }
    (0.0 : Float) < 3.0 ∧
      (within 3.0 "clients" (drain "clients" convert) s).outcome =
        .error (.raised .other "cannot convert 2") := by
  intro convert s
  have positive : (0.0 : Float) < 3.0 := by decide
  have all := drain_all_or_nothing "clients" convert s
  have place : s.items = [1] ++ 2 :: [3] := rfl
  have first : FailsFirst convert s.items s.ending (.raised .other "cannot convert 2") :=
    .item place (.cons rfl .nil) rfl
  have outcome : (drain "clients" convert s).outcome = .error (.raised .other "cannot convert 2") :=
    (all.drained _).2 (.broken first)
  refine ⟨positive, ?_⟩
  rw [all.timely 3.0 positive (.inr (by rw [outcome]; simp)) (by rw [outcome]; simp), outcome]

end Stream

end BackupConsole
