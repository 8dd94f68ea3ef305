import BackupConsole.Proofs.Stream.Trace

set_option autoImplicit false

namespace BackupConsole

variable {α β γ κ ν : Type}

def Event.isRead : Event → Bool
  | read => true
  | _ => false

def Event.Idle (event : Event) : Prop := event.isRead = false ∧ event.isCancel = false

namespace Run

theorem reads_eq (r : Run α) : r.reads = r.events.countP Event.isRead := rfl

theorem countP_of_idle {events : List Event} (idle : ∀ event ∈ events, event.Idle) :
    events.countP Event.isRead = 0 ∧ events.countP Event.isCancel = 0 := by
  simp only [List.countP_eq_zero, Bool.not_eq_true]
  exact ⟨fun event member => (idle event member).1, fun event member => (idle event member).2⟩

theorem ofExcept_bind_ofExcept (x : Except Failure α) (f : α → Except Failure β) :
    (ofExcept x >>= fun a => ofExcept (f a)) = ofExcept (x >>= f) := by
  cases x <;> rfl

theorem mapM_ofExcept (f : α → Except Failure β) (items : List α) :
    (items.mapM fun item => ofExcept (f item)) = ofExcept (items.mapM f) := by
  induction items with
  | nil => rfl
  | cons item items ih =>
    simp only [List.mapM_cons, ih]
    cases f item with
    | error e => rfl
    | ok b => cases items.mapM f <;> rfl

theorem leaves_mapM {kind : Event → Prop} {f : α → Run β} {items : List α}
    (each : ∀ item ∈ items, (f item).Leaves kind) : (items.mapM f).Leaves kind := by
  induction items with
  | nil => exact leaves_nothing _ _
  | cons item items ih =>
    obtain ⟨first, rest⟩ := List.forall_mem_cons.1 each
    rw [List.mapM_cons]
    exact first.bind fun _ => (ih rest).bind fun _ => leaves_nothing _ _

end Run

namespace Stream

inductive ReadTimes (convert : α → Except Failure β) (items : List α) : Nat → Prop
  | whole {bs : List β} (converted : Converted convert items bs) :
      ReadTimes convert items (items.length + 1)
  | item {before after : List α} {a : α} {bs : List β} {e : Failure}
      (place : items = before ++ a :: after) (converted : Converted convert before bs)
      (fails : convert a = .error e) : ReadTimes convert items (before.length + 1)

structure Over (convert : α → Except Failure β) (s : Script α) : Prop where
  said : s.staysOpen = false
  converted : ∃ bs, Converted convert s.items bs
  finished : s.ending.finishes s.finishesAtEnd = true

def ReadsFirst (events : List Event) : Prop :=
  ∀ before after, events = before ++ .read :: after → ∀ event ∈ before, event = .read

structure Released (convert : α → Except Failure β) (s : Script α) (run : Run γ) : Prop where
  reads : ReadTimes convert s.items run.reads
  -- Once anything else has happened, the call is not read again.
  reads_first : ReadsFirst run.events
  finished : Over convert s → run.cancels = 0
  unfinished : ¬ Over convert s → run.cancels = 1

structure After (drained : Run (List β)) (does : β → Event → Prop) (run : Run γ) : Prop where
  failed : ∀ e, drained.outcome = .error e → run = ⟨.error e, drained.events⟩
  drained : ∀ items, drained.outcome = .ok items → ∃ later, run.events = drained.events ++ later ∧
    ∀ event ∈ later, ∃ item ∈ items, does item event

variable {convert : α → Except Failure β} {s : Script α}

theorem ReadTimes.cons {a : α} {b : β} {items : List α} {n : Nat} (converts : convert a = .ok b)
    (times : ReadTimes convert items n) : ReadTimes convert (a :: items) (n + 1) := by
  cases times with
  | whole converted => exact .whole (.cons converts converted)
  | @item before _ _ _ _ place converted fails =>
    subst place
    exact .item (List.cons_append ..).symm (.cons converts converted) fails

theorem events_receive (convert : α → Except Failure β) (ending : Ending) (items : List α) :
    ∃ n waits, (receive convert ending items).events = List.replicate n .read ++ waits ∧
      ReadTimes convert items n ∧ ∀ event ∈ waits, event.Idle := by
  induction items with
  | nil =>
    refine ⟨1, ending.act.events, receive_nil_eq convert ending, .whole .nil, ?_⟩
    cases ending <;> simp [Ending.act, Run.fail, Run.pure_def, Event.Idle, Event.isRead,
      Event.isCancel]
  | cons item rest ih =>
    cases converts : convert item with
    | error e =>
      refine ⟨1, [], receive_cons_of_error converts ending rest, ?_, List.forall_mem_nil _⟩
      exact .item (List.nil_append _).symm .nil converts
    | ok b =>
      obtain ⟨n, waits, events, times, idle⟩ := ih
      refine ⟨n + 1, waits, ?_, times.cons converts, idle⟩
      rw [receive_cons_of_ok converts, events, List.replicate_succ, List.cons_append]

theorem isOver_iff : isOver convert s = true ↔
    (∃ bs, Converted convert s.items bs) ∧ s.ending.finishes s.finishesAtEnd = true := by
  have all_iff (items : List α) : items.all (fun item => (convert item).isOk) = true ↔
      ∃ bs, Converted convert items bs := by
    constructor
    · intro all
      induction items with
      | nil => exact ⟨[], .nil⟩
      | cons item rest ih =>
        rw [List.all_cons, Bool.and_eq_true] at all
        obtain ⟨bs, converted⟩ := ih all.2
        cases converts : convert item with
        | error e => simp [converts, Except.isOk, Except.toBool] at all
        | ok b => exact ⟨b :: bs, .cons converts converted⟩
    · rintro ⟨bs, converted⟩
      exact all_isOk_of_converted converted
  rw [isOver, Bool.and_eq_true, all_iff]

theorem over_iff : Over convert s ↔ (isOver convert s && !s.staysOpen) = true := by
  rw [Bool.and_eq_true, isOver_iff, Bool.not_eq_true']
  exact ⟨fun ended => ⟨⟨ended.converted, ended.finished⟩, ended.said⟩,
    fun ⟨⟨converted, finished⟩, said⟩ => ⟨said, converted, finished⟩⟩

theorem events_close (s : Script α) (ended : Bool) : (close s ended).events =
    if ended && !s.staysOpen then [] else
      [.cancel (if s.cancelFault.isSome then false else !ended)] := by
  unfold close
  split
  next => rfl
  next => cases s.cancelFault <;> rfl

theorem events_closeAfterFailure (operation : String) (s : Script α) (ended : Bool) :
    ∃ notes, (closeAfterFailure operation s ended).events = (close s ended).events ++ notes ∧
      ∀ event ∈ notes, event.Idle := by
  unfold closeAfterFailure
  cases closed : (close s ended).outcome with
  | ok done =>
    rw [Run.recover_of_ok closed]
    exact ⟨[], (List.append_nil _).symm, List.forall_mem_nil _⟩
  | error e =>
    cases e with
    | raised kind text =>
      rw [Run.recover_of_some closed rfl]
      exact ⟨_, rfl, List.forall_mem_singleton.2 ⟨rfl, rfl⟩⟩
    | _ =>
      rw [Run.recover_of_none closed rfl]
      exact ⟨[], (List.append_nil _).symm, List.forall_mem_nil _⟩

theorem events_drain (operation : String) (convert : α → Except Failure β) (s : Script α) :
    ∃ notes, (drain operation convert s).events = (receive convert s.ending s.items).events ++
        ((close s (isOver convert s)).events ++ notes) ∧ ∀ event ∈ notes, event.Idle := by
  cases received : (receive convert s.ending s.items).outcome with
  | error e =>
    obtain ⟨notes, closing, idle⟩ := events_closeAfterFailure operation s (isOver convert s)
    refine ⟨notes, ?_, idle⟩
    rw [events_drain_of_failsFirst (failsFirst_of_receive received), closing]
  | ok bs =>
    simp only [drain, received, Run.bind_of_ok received]
    cases closed : (close s (isOver convert s)).outcome with
    | ok done =>
      rw [Run.recover_of_ok closed, Run.bind_of_ok closed]
      exact ⟨_, rfl, List.forall_mem_singleton.2 ⟨rfl, rfl⟩⟩
    | error e =>
      refine ⟨[], ?_, List.forall_mem_nil _⟩
      cases e with
      | raised kind text => rw [Run.recover_of_some closed rfl, Run.bind_of_error rfl]; rfl
      | _ => rw [Run.recover_of_none closed rfl, Run.bind_of_error closed, List.append_nil]

theorem ReadsFirst.append {events later : List Event} (first : ReadsFirst events)
    (unread : .read ∉ later) : ReadsFirst (events ++ later) := by
  intro before after split
  rcases List.append_eq_append_iff.1 split with ⟨more, _, rest⟩ | ⟨more, place, rest⟩
  · exact absurd (rest ▸ List.mem_append_right more List.mem_cons_self) unread
  · cases more with
    | nil => exact absurd (List.nil_append later ▸ rest ▸ List.mem_cons_self) unread
    | cons event more =>
      obtain ⟨rfl, _⟩ := List.cons.inj rest
      exact first before more place

theorem readsFirst_replicate (n : Nat) : ReadsFirst (List.replicate n .read) := by
  intro before after split event member
  have inside : event ∈ List.replicate n Event.read := split ▸ List.mem_append_left _ member
  exact List.eq_of_mem_replicate inside

theorem unread_of_idle {events : List Event} (idle : ∀ event ∈ events, event.Idle) :
    .read ∉ events := by
  intro member
  cases (idle _ member).1

theorem released_of_events {run : Run γ} {operation : String}
    (same : run.events = (drain operation convert s).events) : Released convert s run := by
  obtain ⟨notes, drained, noteIdle⟩ := events_drain operation convert s
  obtain ⟨n, waits, received, times, waitIdle⟩ := events_receive convert s.ending s.items
  have events : run.events =
      List.replicate n .read ++ (waits ++ ((close s (isOver convert s)).events ++ notes)) := by
    rw [same, drained, received, List.append_assoc]
  obtain ⟨waitReads, waitCancels⟩ := Run.countP_of_idle waitIdle
  obtain ⟨noteReads, noteCancels⟩ := Run.countP_of_idle noteIdle
  have closing := events_close s (isOver convert s)
  have closingReads : (close s (isOver convert s)).events.countP Event.isRead = 0 := by
    rw [closing]
    split <;> rfl
  have reads : run.reads = n := by
    simp [Run.reads_eq, events, List.countP_append, waitReads, noteReads, closingReads,
      List.countP_replicate, Event.isRead]
  have cancels : run.cancels = (close s (isOver convert s)).events.countP Event.isCancel := by
    simp [Run.cancels, events, List.countP_append, waitCancels, noteCancels,
      List.countP_replicate, Event.isCancel]
  have unread : .read ∉ waits ++ ((close s (isOver convert s)).events ++ notes) := by
    simp only [List.mem_append, not_or]
    refine ⟨unread_of_idle waitIdle, ?_, unread_of_idle noteIdle⟩
    rw [closing]
    split <;> simp
  refine {
    reads := reads ▸ times
    reads_first := events ▸ (readsFirst_replicate n).append unread
    finished := ?_
    unfinished := ?_ }
  · intro ended
    rw [cancels, closing, if_pos (over_iff.1 ended)]
    rfl
  · intro unfinished
    rw [cancels, closing, if_neg fun ended => unfinished (over_iff.2 ended)]
    rfl

theorem Released.of_after {does : β → Event → Prop} {operation : String} {run : Run γ}
    (after : After (drain operation convert s) does run)
    (idle : ∀ item event, does item event → event.Idle) : Released convert s run := by
  have drained : Released convert s (drain operation convert s) := released_of_events rfl
  cases outcome : (drain operation convert s).outcome with
  | error e =>
    rw [after.failed e outcome]
    exact released_of_events rfl
  | ok items =>
    obtain ⟨later, events, from_items⟩ := after.drained items outcome
    have idle_later : ∀ event ∈ later, event.Idle := by
      intro event member
      obtain ⟨item, _, did⟩ := from_items event member
      exact idle item event did
    obtain ⟨unread, uncancelled⟩ := Run.countP_of_idle idle_later
    have reads : run.reads = (drain operation convert s).reads := by
      rw [Run.reads_eq, events, List.countP_append, unread]
      rfl
    have cancels : run.cancels = (drain operation convert s).cancels := by
      rw [Run.cancels, events, List.countP_append, uncancelled]
      rfl
    exact {
      reads := reads ▸ drained.reads
      reads_first := events ▸ drained.reads_first.append (unread_of_idle idle_later)
      finished := cancels ▸ drained.finished
      unfinished := cancels ▸ drained.unfinished }

theorem after_bind {drained : Run (List β)} {does : β → Event → Prop} {f : List β → Run γ}
    (next : ∀ items, (f items).Leaves fun event => ∃ item ∈ items, does item event) :
    After drained does (drained >>= f) where
  failed e outcome := Run.bind_of_error outcome f
  drained items outcome := by
    rw [Run.bind_of_ok outcome]
    exact ⟨_, rfl, next items⟩

section

variable (less? : κ → κ → Option Bool) (same : κ → κ → Bool) (isKey : κ → Bool)

def sortedBy (key : β → Run κ) (items : List β) : Run (List β) := do
  let entries ← items.mapM fun item => do
    let k ← key item
    return (k, item)
  let sorted ← Run.ofExcept (sortEntries less? entries)
  return sorted.map (·.2)

def mappedBy (key : β → Run κ) (value : β → Run ν) (items : List β) : Run (List (κ × ν)) := do
  let pairs ← items.mapM fun item => do
    let k ← key item
    let v ← value item
    if isKey k then return (k, v) else .fail .wrongType
  return Mapping.ofPairs same pairs

def toList (key? : Option (β → Run κ)) (operation : String) (convert : α → Except Failure β)
    (s : Script α) : Run (List β) := do
  let items ← drain operation convert s
  match key? with
  | none => return items
  | some key => sortedBy less? key items

def toMapping (key : β → Run κ) (value : β → Run ν) (operation : String)
    (convert : α → Except Failure β) (s : Script α) : Run (List (κ × ν)) := do
  let items ← drain operation convert s
  mappedBy same isKey key value items

theorem sortedBy_ofExcept (key : β → Except Failure κ) (items : List β) :
    sortedBy less? (fun b => .ofExcept (key b)) items = .ofExcept (sortByKey less? key items) := by
  have keyed : (items.mapM fun item => (do
      let k ← Run.ofExcept (key item)
      return (k, item))) = .ofExcept (items.mapM fun item => do
        let k ← key item
        return (k, item)) := by
    rw [← Run.mapM_ofExcept]
    refine congrArg items.mapM (funext fun item => ?_)
    exact Run.ofExcept_bind_ofExcept (key item) fun k => .ok (k, item)
  simp only [sortedBy, sortByKey, keyed, ← Run.ofExcept_bind_ofExcept]
  rfl

theorem mappedBy_ofExcept (key : β → Except Failure κ) (value : β → Except Failure ν)
    (items : List β) :
    mappedBy same isKey (fun b => .ofExcept (key b)) (fun b => .ofExcept (value b)) items =
      .ofExcept (mappingOf same key value isKey items) := by
  have paired : (items.mapM fun item => (do
      let k ← Run.ofExcept (key item)
      let v ← Run.ofExcept (value item)
      if isKey k then return (k, v) else .fail .wrongType)) = .ofExcept (items.mapM fun item => do
        let k ← key item
        let v ← value item
        if isKey k then return (k, v) else .error .wrongType) := by
    rw [← Run.mapM_ofExcept]
    refine congrArg items.mapM (funext fun item => ?_)
    cases key item with
    | error e => rfl
    | ok k =>
      cases value item with
      | error e => rfl
      | ok v =>
        show (if isKey k then pure (k, v) else Run.fail .wrongType : Run (κ × ν)) =
          Run.ofExcept (if isKey k then .ok (k, v) else .error .wrongType)
        cases isKey k <;> rfl
  simp only [mappedBy, mappingOf, paired]
  exact Run.ofExcept_bind_ofExcept _ fun pairs => .ok (Mapping.ofPairs same pairs)

theorem after_toList (key? : Option (β → Run κ)) (operation : String)
    (convert : α → Except Failure β) (s : Script α) :
    After (drain operation convert s)
      (fun item event => ∃ key ∈ key?, event ∈ (key item).events)
      (toList less? key? operation convert s) := by
  refine after_bind fun items => ?_
  cases key? with
  | none => exact Run.leaves_nothing _ _
  | some key =>
    refine Run.Leaves.bind ?_ fun _ => (Run.leaves_nothing _ _).bind fun _ => Run.leaves_nothing _ _
    refine Run.leaves_mapM fun item member => Run.Leaves.bind ?_ fun _ => Run.leaves_nothing _ _
    exact fun event taken => ⟨item, member, key, rfl, taken⟩

theorem after_toMapping (key : β → Run κ) (value : β → Run ν) (operation : String)
    (convert : α → Except Failure β) (s : Script α) :
    After (drain operation convert s)
      (fun item event => event ∈ (key item).events ∨ event ∈ (value item).events)
      (toMapping same isKey key value operation convert s) := by
  refine after_bind fun items => ?_
  refine Run.Leaves.bind ?_ fun _ => Run.leaves_nothing _ _
  refine Run.leaves_mapM fun item member => ?_
  refine Run.Leaves.bind ?_ fun k => Run.Leaves.bind ?_ fun _ => ?_
  · exact fun event taken => ⟨item, member, .inl taken⟩
  · exact fun event taken => ⟨item, member, .inr taken⟩
  · split <;> exact Run.leaves_nothing _ _

end

/-- Every way of draining a stream, one that is cancelled while it waits among them. -/
structure ReleasedOnce (operation : String) (convert : α → Except Failure β) (s : Script α) :
    Prop where
  drained : Released convert s (drain operation convert s)
  timed : ∀ timeout : Float, 0.0 < timeout →
    Released convert s (within timeout operation (drain operation convert) s)
  listed : ∀ {κ : Type} (less? : κ → κ → Option Bool) (key? : Option (β → Run κ)),
    After (drain operation convert s) (fun item event => ∃ key ∈ key?, event ∈ (key item).events)
      (toList less? key? operation convert s) ∧
    ((∀ key ∈ key?, ∀ item, (key item).Leaves Event.Idle) →
      Released convert s (toList less? key? operation convert s))
  mapped : ∀ {κ ν : Type} (same : κ → κ → Bool) (isKey : κ → Bool) (key : β → Run κ)
    (value : β → Run ν),
    After (drain operation convert s)
      (fun item event => event ∈ (key item).events ∨ event ∈ (value item).events)
      (toMapping same isKey key value operation convert s) ∧
    ((∀ item, (key item).Leaves Event.Idle) → (∀ item, (value item).Leaves Event.Idle) →
      Released convert s (toMapping same isKey key value operation convert s))
  -- Keys and values that only succeed or fail are the ones that collections are made with.
  sorted : ∀ {κ : Type} (less? : κ → κ → Option Bool) (key : β → Except Failure κ),
    toList less? (some fun b => .ofExcept (key b)) operation convert s = (do
      let items ← drain operation convert s
      Run.ofExcept (sortByKey less? key items))
  arranged : ∀ {κ ν : Type} (same : κ → κ → Bool) (isKey : κ → Bool)
    (key : β → Except Failure κ) (value : β → Except Failure ν),
    toMapping same isKey (fun b => .ofExcept (key b)) (fun b => .ofExcept (value b)) operation
      convert s = (do
        let items ← drain operation convert s
        Run.ofExcept (mappingOf same key value isKey items))

theorem streams_released_once (operation : String) (convert : α → Except Failure β)
    (s : Script α) : ReleasedOnce operation convert s where
  drained := released_of_events rfl
  timed timeout positive := by
    have events : (within timeout operation (drain operation convert) s).events =
        (drain operation convert s).events := by
      rw [events_within (Number.not_le_of_lt positive), seen_of_positive positive]
    exact released_of_events events
  listed less? key? := by
    have after := after_toList less? key? operation convert s
    refine ⟨after, fun idle => .of_after after ?_⟩
    rintro item event ⟨key, given, taken⟩
    exact idle key given item event taken
  mapped same isKey key value := by
    have after := after_toMapping same isKey key value operation convert s
    refine ⟨after, fun idleKeys idleValues => .of_after after ?_⟩
    rintro item event (taken | taken)
    · exact idleKeys item event taken
    · exact idleValues item event taken
  sorted less? key := bind_congr fun items => sortedBy_ofExcept less? key items
  arranged same isKey key value :=
    bind_congr fun items => mappedBy_ofExcept same isKey key value items

theorem released_in_time :
    let convert : Nat → Except Failure Nat := fun n =>
      if n = 2 then .error (.raised .other "cannot convert 2") else .ok (10 * n)
    let s : Script Nat := { items := [1, 2, 3], cancelFault := some "cannot cancel" }
    (0.0 : Float) < 3.0 ∧
      (within 3.0 "clients" (drain "clients" convert) s).cancels = 1 := by
  intro convert s
  have positive : (0.0 : Float) < 3.0 := by decide
  have released := (streams_released_once "clients" convert s).timed 3.0 positive
  refine ⟨positive, released.unfinished ?_⟩
  rintro ⟨_, ⟨bs, converted⟩, _⟩
  -- The second item does not convert, so the call is left open.
  have all := all_isOk_of_converted converted
  cases all

end Stream

end BackupConsole
