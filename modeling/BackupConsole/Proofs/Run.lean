import BackupConsole.Run

set_option autoImplicit false

namespace BackupConsole.Run

variable {α β : Type}

theorem ext {r s : Run α} (outcome : r.outcome = s.outcome) (events : r.events = s.events) :
    r = s := by
  cases r
  cases s
  simp_all

theorem bind_of_ok {r : Run α} {a : α} (ok : r.outcome = .ok a) (f : α → Run β) :
    r >>= f = ⟨(f a).outcome, r.events ++ (f a).events⟩ := by
  simp [bind, Run.bind, ok]

theorem bind_of_error {r : Run α} {e : Failure} (failed : r.outcome = .error e)
    (f : α → Run β) : r >>= f = ⟨.error e, r.events⟩ := by
  simp [bind, Run.bind, failed]

theorem emit_bind (e : Event) (f : Unit → Run β) :
    emit e >>= f = ⟨(f ()).outcome, e :: (f ()).events⟩ := rfl

theorem log_bind (level : Level) (logger event : String) (fields : List (String × Datum))
    (f : Unit → Run β) :
    log level logger event fields >>= f =
      ⟨(f ()).outcome, .log { level, logger, event, fields } :: (f ()).events⟩ := rfl

theorem ofExcept_bind (r : Except Failure α) (f : α → Run β) :
    ofExcept r >>= f = match r with
      | .ok a => f a
      | .error e => ⟨.error e, []⟩ := by
  cases r <;> rfl

theorem ofCause_bind (r : Except Cause α) (f : α → Run β) :
    ofCause r >>= f = match r with
      | .ok a => f a
      | .error cause => ⟨.error (.refused cause), []⟩ := by
  cases r <;> rfl

theorem outcome_bind (r : Run α) (f : α → Run β) :
    (r >>= f).outcome = r.outcome >>= fun a => (f a).outcome := by
  cases h : r.outcome with
  | error e => rw [bind_of_error h]; rfl
  | ok a => rw [bind_of_ok h]; rfl

theorem map_eq (f : α → β) (r : Run α) : f <$> r = ⟨r.outcome.map f, r.events⟩ := by
  rw [map_eq_pure_bind]
  cases h : r.outcome with
  | error e =>
    rw [bind_of_error h]
    rfl
  | ok a =>
    rw [bind_of_ok h]
    exact ext rfl (List.append_nil _)

@[simp] theorem outcome_emit (e : Event) : (emit e).outcome = .ok () := rfl

@[simp] theorem outcome_ofExcept (r : Except Failure α) : (ofExcept r).outcome = r := rfl

theorem recover_of_ok {r : Run α} {a : α} (ok : r.outcome = .ok a)
    (handle : Failure → Option (Run α)) : r.recover handle = r := by
  simp [recover, ok]

theorem recover_of_none {r : Run α} {e : Failure} {handle : Failure → Option (Run α)}
    (failed : r.outcome = .error e) (unhandled : handle e = none) : r.recover handle = r := by
  simp [recover, failed, unhandled]

theorem recover_of_some {r next : Run α} {e : Failure} {handle : Failure → Option (Run α)}
    (failed : r.outcome = .error e) (handled : handle e = some next) :
    r.recover handle = ⟨next.outcome, r.events ++ next.events⟩ := by
  simp [recover, failed, handled]

theorem recover_cases (r : Run α) (handle : Failure → Option (Run α)) :
    r.recover handle = r ∨ ∃ e next, r.outcome = .error e ∧ handle e = some next ∧
      r.recover handle = ⟨next.outcome, r.events ++ next.events⟩ := by
  cases failed : r.outcome with
  | ok a => exact .inl (recover_of_ok failed handle)
  | error e =>
    cases handled : handle e with
    | none => exact .inl (recover_of_none failed handled)
    | some next => exact .inr ⟨e, next, rfl, handled, recover_of_some failed handled⟩

theorem outcome_recover (r : Run α) (handle : Failure → Option (Run α)) :
    (r.recover handle).outcome = match r.outcome with
      | .ok a => .ok a
      | .error e => ((handle e).map Run.outcome).getD (.error e) := by
  cases h : r.outcome with
  | ok a => rw [recover_of_ok h, h]
  | error e =>
    cases handled : handle e with
    | none =>
      rw [recover_of_none h handled, h]
      simp [handled]
    | some next =>
      rw [recover_of_some h handled]
      simp [handled]

end BackupConsole.Run
