import BackupConsole.Proofs.Completion
import BackupConsole.Proofs.Connection.Security
import BackupConsole.Proofs.Journal
import BackupConsole.Proofs.Settings.Precedence

set_option autoImplicit false

namespace BackupConsole

theorem Settings.Made.timely {s : Settings} (made : s.Made) : ¬ s.connectTimeout ≤ 0.0 := by
  obtain ⟨v, accepted⟩ := made.accepted .connectTimeout
  simp only [Setting.accept] at accepted
  split at accepted
  next => cases accepted
  next timely =>
    have same : v = s.connectTimeout := Except.ok.inj accepted
    rwa [← same]

theorem Inputs.made_of_resolve {i : Inputs} {s : Settings} (resolved : i.resolve = .ok s) :
    s.Made := by
  obtain ⟨overrides, entries, file, accepted⟩ := reachesValidation_iff.1 (.inl ⟨s, resolved⟩)
  rw [resolve_of_accepted accepted, validated] at resolved
  cases made : Settings.ofLayer (mergedLayer file overrides i.flags) with
  | error faults =>
    rw [made] at resolved
    cases resolved
  | ok settings =>
    rw [made] at resolved
    cases resolved
    exact ⟨_, _, made⟩

namespace CommandLine

def Globals.inputs (globals : Globals) (world : World) : Inputs :=
  { world, typed := globals.configFile, flags := globals.flags }

theorem Globals.resolve_inputs (globals : Globals) (world : World) :
    (globals.inputs world).resolve = globals.settings world [] := by
  rw [Globals.settings, List.append_nil]
  rfl

end CommandLine

namespace Completion

theorem lesser_timely {a b : Float} (first : ¬ a ≤ 0.0) (second : ¬ b ≤ 0.0) :
    ¬ lesser a b ≤ 0.0 := by
  unfold lesser
  split
  next => exact second
  next => exact first

theorem given_up_of_finite {a b : Float} (finite : b < Number.infinity) (prompt : Bool) :
    (Patience.ofSeconds (lesser a b)).outlasts prompt .blocked = false := by
  have bounded (positive : 0.0 < lesser a b) : lesser a b < Number.infinity := by
    unfold lesser at positive ⊢
    split
    next => exact finite
    next least =>
      rw [if_neg least] at positive
      exact Number.lt_infinity_of_not_lt finite positive least
  unfold Patience.ofSeconds
  split
  next => rfl
  next =>
    split
    next positive =>
      rw [if_pos (bounded positive)]
      rfl
    next => simp [Patience.outlasts]

inductive Unread (c : Coordinator) : Failure → Prop
  | failed {e : Failure} (failed : Listing.backups.Reads c (.error e))
      (ended : e ≠ .cancelled ∨ c.backups.ending ≠ .blocked)
      (punctual : ∀ text, e ≠ .raised .timeout text) : Unread c e
  | late (failed : Listing.backups.Reads c (.error .cancelled))
      (blocked : c.backups.ending = .blocked) :
      Unread c (.refused (.streamTimedOut "available backups"))
  | timedOut {text : String} (failed : Listing.backups.Reads c (.error (.raised .timeout text))) :
      Unread c (.refused (.streamTimedOut "available backups"))

theorem outcome_reading_of_unread {timeout : Float} (positive : 0.0 < timeout)
    (finite : timeout < Number.infinity) {c : Coordinator} {e : Failure} (unread : Unread c e)
    (token : String) :
    (reading timeout c (credentialInterceptors token)).outcome = .error e := by
  let asking (backups : Script (List UInt8)) : Run (List BackupEntry) :=
    Client.send (credentialInterceptors token) .stream c.metadata .backupsMetadata []
      (Stream.drain "available backups" Client.backupEntry backups)
  have sent {e : Failure} (failed : Listing.backups.Reads c (.error e)) :
      (asking c.backups).outcome = .error e := Stream.outcome_drain_iff.2 failed
  cases unread with
  | failed failed ended punctual =>
    have ends : c.backups.ending ≠ .blocked ∨ (asking c.backups).outcome ≠ .error .cancelled := by
      rw [sent failed]
      simpa [or_comm] using ended
    have punctual (text : String) :
        (asking c.backups).outcome ≠ .error (.raised .timeout text) := by
      rw [sent failed]
      simpa using punctual text
    rw [reading, Stream.within_eq_of_ends positive ends punctual]
    exact sent failed
  | late failed blocked => exact Stream.within_of_blocked positive finite blocked (sent failed)
  | timedOut failed => exact Stream.within_of_timeout positive (sent failed)

theorem unread_or_read (c : Coordinator) :
    (∃ e, Unread c e) ∨ ∃ entries, Listing.backups.Reads c (.ok entries) := by
  cases drained : (Listing.backups.drained c).outcome with
  | ok entries => exact .inr ⟨entries, Stream.outcome_drain_iff.1 drained⟩
  | error e =>
    have failed : Listing.backups.Reads c (.error e) := Stream.outcome_drain_iff.1 drained
    by_cases late : e = .cancelled ∧ c.backups.ending = .blocked
    · obtain ⟨rfl, blocked⟩ := late
      exact .inl ⟨_, .late failed blocked⟩
    · by_cases timedOut : ∃ text, e = .raised .timeout text
      · obtain ⟨text, rfl⟩ := timedOut
        exact .inl ⟨_, .timedOut failed⟩
      · exact .inl ⟨e, .failed failed (not_and_or.1 late) (not_exists.1 timedOut)⟩

end Completion

namespace Session

open CommandLine (Globals)

variable {world : World} {c : Coordinator} {globals : Globals} {files : Files} {s : Settings}
  {e : Failure}

def hurried (s : Settings) : Settings := (Errand.names Completion.defaultTimeout).settings s

theorem fetchNames_hurried (files : Files) (s : Settings) (c : Coordinator) :
    Completion.fetchNames files s Completion.defaultTimeout c = Completion.namesOf <$>
      Channel.withOpen files (hurried s) c.readiness
        (Completion.reading Completion.defaultTimeout c) :=
  Completion.fetchNames_eq files s Completion.defaultTimeout c

theorem channelParams_hurried (files : Files) (s : Settings) :
    channelParams files (hurried s) = channelParams files s := rfl

theorem late_hurried {readiness : Readiness} (blocked : readiness.ending = .blocked) :
    Channel.Late (hurried s) readiness :=
  .inl (blocked ▸ Completion.given_up_of_finite (by decide) readiness.prompt)

theorem made_of_settings (resolved : globals.settings world [] = .ok s) : s.Made :=
  Inputs.made_of_resolve (globals.resolve_inputs world ▸ resolved)

theorem Completing.made (completing : Completing world globals s files) : s.Made :=
  made_of_settings completing.resolved

structure Completes (world : World) (c : Coordinator) (globals : Globals)
    (entries : List BackupEntry) : Prop where
  completing : ∃ s files, Completing world globals s files ∧
    Channel.Reached files (hurried s) c.readiness
  read : Listing.backups.Reads c (.ok entries)

/-- The first stage of a completion that does not go well, and what it fails with. -/
inductive Fails (world : World) (c : Coordinator) (globals : Globals) : Failure → Prop
  | unresolved {e : Failure} (unresolved : globals.settings world [] = .error e) :
      Fails world c globals e
  | unlogged {s : Settings} {e : Failure} (resolved : globals.settings world [] = .ok s)
      (unlogged : (Journal.setUp world.files {} (.ofSettings s)).2.2 = .error e) :
      Fails world c globals e
  | unopened {s : Settings} {files : Files} {e : Failure}
      (completing : Completing world globals s files)
      (unopened : channelParams files s = .error e) : Fails world c globals e
  | unready {s : Settings} {files : Files} {params : ChannelParams} {e : Failure}
      (completing : Completing world globals s files)
      (opened : channelParams files s = .ok params)
      (unready : (Channel.await (hurried s) c.readiness).outcome = .error e) :
      Fails world c globals e
  | unread {s : Settings} {files : Files} {e : Failure}
      (completing : Completing world globals s files)
      (reached : Channel.Reached files (hurried s) c.readiness)
      (unread : Completion.Unread c e) : Fails world c globals e

theorem completes_or_fails (world : World) (c : Coordinator) (globals : Globals) :
    (∃ entries, Completes world c globals entries) ∨ ∃ e, Fails world c globals e := by
  cases resolved : globals.settings world [] with
  | error e => exact .inr ⟨e, .unresolved resolved⟩
  | ok s =>
    match logged : Journal.setUp world.files {} (.ofSettings s) with
    | (files, journal, .error e) => exact .inr ⟨e, .unlogged resolved (by rw [logged])⟩
    | (files, journal, .ok ()) =>
      have completing : Completing world globals s files := ⟨resolved, journal, logged⟩
      cases opened : channelParams files s with
      | error e => exact .inr ⟨e, .unopened completing opened⟩
      | ok params =>
        cases ready : (Channel.await (hurried s) c.readiness).outcome with
        | error e => exact .inr ⟨e, .unready completing opened ready⟩
        | ok done =>
          have reached : Channel.Reached files (hurried s) c.readiness :=
            ⟨⟨params, opened⟩, Channel.outcome_await_iff.1 ready⟩
          rcases Completion.unread_or_read c with ⟨e, unread⟩ | ⟨entries, read⟩
          · exact .inr ⟨e, .unread completing reached unread⟩
          · exact .inl ⟨entries, ⟨s, files, completing, reached⟩, read⟩

def tolerated (e : Failure) : Except Failure (List (String × String)) :=
  if (complaint? e).isSome then .ok [] else .error e

theorem outcome_withoutComplaints_of_error {r : Run (List (String × String))}
    (failed : r.outcome = .error e) : (withoutComplaints r).outcome = tolerated e := by
  rw [withoutComplaints, Run.outcome_recover, failed, tolerated]
  simp only
  cases complaint? e <;> rfl

theorem outcome_complete_of_unfetched {p : String} (completing : Completing world globals s files)
    (unfetched : (Completion.fetchNames files s Completion.defaultTimeout c).outcome = .error e) :
    (complete world c globals p).run.outcome = tolerated e := by
  have failed : (offered files s c p).outcome = .error e := by
    rw [offered, Run.outcome_bind, unfetched]
    rfl
  rw [complete_of_completing completing, outcome_withoutComplaints_of_error failed]

theorem Fails.outcome_complete (fails : Fails world c globals e) (p : String) :
    (complete world c globals p).run.outcome = tolerated e := by
  have positive : (0.0 : Float) < Completion.defaultTimeout := by decide
  have finite : Completion.defaultTimeout < Number.infinity := by decide
  obtain ⟨quiet, started⟩ := setUp_default world.files {}
  cases fails with
  | unresolved unresolved =>
    simp only [complete, started, unresolved]
    exact outcome_withoutComplaints_of_error rfl
  | @unlogged s e resolved unlogged =>
    rcases logged : Journal.setUp world.files {} (.ofSettings s) with ⟨files, journal, outcome⟩
    rw [logged] at unlogged
    cases unlogged
    obtain ⟨later, logged⟩ := setUp_of_before logged quiet
    simp only [complete, started, resolved, logged]
    exact outcome_withoutComplaints_of_error rfl
  | unopened completing unopened =>
    refine outcome_complete_of_unfetched completing ?_
    rw [← channelParams_hurried] at unopened
    rw [fetchNames_hurried, Run.map_eq, Channel.withOpen_of_error unopened]
    rfl
  | unready completing opened unready =>
    refine outcome_complete_of_unfetched completing ?_
    rw [← channelParams_hurried] at opened
    rw [fetchNames_hurried, Run.map_eq, Channel.withOpen_of_unready opened unready]
    rfl
  | unread completing reached unread =>
    refine outcome_complete_of_unfetched completing ?_
    rw [fetchNames_hurried, Run.map_eq, Channel.outcome_withOpen_of_reached reached,
      Completion.outcome_reading_of_unread positive finite unread]
    rfl

theorem Completes.outcome_complete {entries : List BackupEntry}
    (completes : Completes world c globals entries) (p : String) :
    (complete world c globals p).run.outcome =
      .ok ((Completion.namesOf entries).filter fun entry => p.toList <+: entry.1.toList) := by
  obtain ⟨⟨s, files, completing, reached⟩, read⟩ := completes
  have positive : (0.0 : Float) < Completion.defaultTimeout := by decide
  have timely := Stream.inTime_of_positive positive c.backups
  have fetched := Completion.outcome_fetchNames_eq_ok_iff.2 ⟨reached, timely, entries, read, rfl⟩
  rw [outcome_complete_of_fetched completing fetched, suggestions_eq]

theorem outcome_complete_eq_error_iff {p : String} :
    (complete world c globals p).run.outcome = .error e ↔
      Fails world c globals e ∧ complaint? e = none := by
  constructor
  · intro failed
    rcases completes_or_fails world c globals with ⟨entries, completes⟩ | ⟨first, fails⟩
    · rw [completes.outcome_complete] at failed
      cases failed
    · rw [fails.outcome_complete, tolerated] at failed
      split at failed
      next => cases failed
      next untold =>
        cases failed
        exact ⟨fails, Option.not_isSome_iff_eq_none.1 untold⟩
  · rintro ⟨fails, untold⟩
    rw [fails.outcome_complete, tolerated, untold]
    rfl

end Session

end BackupConsole
