import BackupConsole.Proofs.Completion.Coordinator
import BackupConsole.Proofs.Number.NotANumber

set_option autoImplicit false

namespace BackupConsole

structure BoundedWait (s : Settings) : Prop where
  positive : 0.0 < s.connectTimeout
  completion : ∀ timeout : Float, 0.0 < timeout →
    0.0 < ((Errand.names timeout).settings s).connectTimeout ∧
      ((Errand.names timeout).settings s).connectTimeout ≤ timeout

variable {i : Inputs} {s : Settings}

theorem boundedWait_iff_number (timely : ¬ s.connectTimeout ≤ 0.0) :
    BoundedWait s ↔ s.connectTimeout.isNaN = false := by
  have zero : (0.0 : Float).isNaN = false := by decide
  constructor
  · exact fun bounded => (Number.isNaN_of_lt bounded.positive).2
  · intro number
    have positive : 0.0 < s.connectTimeout := Number.lt_of_not_le number zero timely
    refine ⟨positive, fun timeout some => ?_⟩
    have self := (Number.le_self_iff s.connectTimeout).2 number
    have limit := (Number.le_self_iff timeout).2 (Number.isNaN_of_lt some).2
    -- A number compares with itself, so whichever is chosen is at most either.
    obtain ⟨chosen, _, least⟩ := Completion.lesser_least self limit
    have shorter : 0.0 < Completion.lesser s.connectTimeout timeout := by
      rcases chosen with own | given
      · rwa [own]
      · rwa [given]
    exact ⟨shorter, least⟩

theorem lesser_of_isNaN {a : Float} (undefined : a.isNaN = true) (b : Float) :
    Completion.lesser a b = a := by
  refine if_neg fun less => ?_
  rw [(Number.isNaN_of_lt less).2] at undefined
  cases undefined

theorem Inputs.isNaN_connectTimeout_iff (resolved : i.resolve = .ok s) :
    s.connectTimeout.isNaN = true ↔
      ∃ entries, i.Uses entries ∧ (i.value entries .connectTimeout).IsNan := by
  obtain ⟨entries, uses, checked⟩ := check_value resolved
  obtain ⟨x, read, accepted⟩ := bind_eq_ok (checked .connectTimeout)
  -- Accepting a timeout does not change it.
  have kept : x = s.connectTimeout := by
    simp only [Setting.accept] at accepted
    split at accepted <;> cases accepted
    rfl
  rw [← kept, Given.isNaN_toReal read]
  constructor
  · exact fun nan => ⟨entries, uses, nan⟩
  · rintro ⟨others, also, nan⟩
    exact also.unique uses ▸ nan

theorem outcome_fetchNames_of_unready {files : Files} {params : ChannelParams}
    (opened : channelParams files s = .ok params) {c : Coordinator}
    (unready : c.readiness.ending = .blocked) {timeout : Float}
    (finite : timeout < Number.infinity) :
    (Completion.fetchNames files s timeout c).outcome =
      .error (.refused (.unreachable s.serverAddress
        ((Errand.names timeout).settings s).connectTimeout)) := by
  have late : Channel.Late ((Errand.names timeout).settings s) c.readiness :=
    .inl (unready ▸ Completion.given_up_of_finite finite c.readiness.prompt)
  have failed : (Channel.await ((Errand.names timeout).settings s) c.readiness).outcome =
      .error (.refused (.unreachable s.serverAddress
        ((Errand.names timeout).settings s).connectTimeout)) := by
    rw [Channel.await_of_late late]
    rfl
  have closed : channelParams files ((Errand.names timeout).settings s) = .ok params := opened
  have fetched : Completion.fetchNames files s timeout c = Completion.namesOf <$>
      Channel.withOpen files ((Errand.names timeout).settings s) c.readiness
        (Completion.reading timeout c) := Completion.fetchNames_eq files s timeout c
  rw [fetched, Run.map_eq, Channel.withOpen_of_unready closed failed]
  rfl

/-- The wait is bounded exactly if the source that counts gives a number. -/
theorem boundedWait_iff (resolved : i.resolve = .ok s) :
    (BoundedWait s ↔ ¬ ∃ entries, i.Uses entries ∧ (i.value entries .connectTimeout).IsNan) ∧
    (¬ BoundedWait s → ∀ timeout,
      ((Errand.names timeout).settings s).connectTimeout = s.connectTimeout) ∧
    ∀ files params c timeout, channelParams files s = .ok params →
      c.readiness.ending = .blocked → timeout < Number.infinity →
      (Completion.fetchNames files s timeout c).outcome =
        .error (.refused (.unreachable s.serverAddress
          ((Errand.names timeout).settings s).connectTimeout)) := by
  have numbers := boundedWait_iff_number (Inputs.made_of_resolve resolved).timely
  refine ⟨?_, fun unbounded timeout => ?_, ?_⟩
  · rw [numbers, ← Inputs.isNaN_connectTimeout_iff resolved, Bool.not_eq_true]
  · rw [numbers, Bool.not_eq_false] at unbounded
    exact lesser_of_isNaN unbounded timeout
  · intro files params c timeout opened unready finite
    exact outcome_fetchNames_of_unready opened unready finite

theorem boundedWait_spelled :
    let i : Inputs := { world := ⟨.ofHome "/home", [("BACKUPCTL_CONNECT_TIMEOUT", " +25e-1 ")]⟩ }
    let s : Settings := { Settings.defaults with connectTimeout := 2.5 }
    i.resolve = .ok s ∧ BoundedWait s := by
  intro i s
  have resolved : i.resolve = .ok s := by decide
  refine ⟨resolved, (boundedWait_iff resolved).1.2 fun undefined => ?_⟩
  have number : s.connectTimeout.isNaN = false := by decide
  rw [(Inputs.isNaN_connectTimeout_iff resolved).2 undefined] at number
  cases number

theorem nan_not_boundedWait :
    let i : Inputs := { world := ⟨.ofHome "/home", [("BACKUPCTL_CONNECT_TIMEOUT", "nan")]⟩ }
    ∃ s, i.resolve = .ok s ∧ ¬ BoundedWait s := by
  intro i
  have resolved :
      i.resolve = .ok { Settings.defaults with connectTimeout := Number.notANumber } := by decide
  refine ⟨_, resolved, fun bounded => ?_⟩
  have positive : ¬ (0.0 : Float) < Number.notANumber := by decide
  exact positive bounded.positive

end BackupConsole
