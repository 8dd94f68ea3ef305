import BackupConsole.Proofs.Completion.Stages
import BackupConsole.Proofs.Settings.Refusal

set_option autoImplicit false

namespace BackupConsole

def Coordinator.Uninterrupted (c : Coordinator) : Prop :=
  c.readiness.ending ≠ .interrupted ∧ c.backups.ending ≠ .interrupted

/-- An error of the system, a time-out among them. -/
def Failure.OfSystem : Failure → Prop
  | .unusableFile _ _ => True
  | .raised kind _ => kind ≠ .other
  | _ => False

namespace Session

open CommandLine (Globals)

variable {world : World} {c : Coordinator} {globals : Globals} {files : Files} {s : Settings}
  {e : Failure}

theorem complaint?_eq_none_iff :
    complaint? e = none ↔ (∀ cause, e ≠ .refused cause) ∧ ¬ e.OfSystem := by
  cases e with
  | raised kind text => cases kind <;> simp [complaint?, Failure.OfSystem]
  | _ => simp [complaint?, Failure.OfSystem]

/-- What completion lets through, by the stage that it comes from: no error of the system, and none
that is told. -/
inductive Escapes (world : World) (c : Coordinator) (globals : Globals) : Failure → Prop
  | unresolved {e : Failure} (escapes : (globals.inputs world).Escapes e)
      (foreign : ¬ e.OfSystem) : Escapes world c globals e
  | unlogged {s : Settings} {e : Failure} (resolved : globals.settings world [] = .ok s)
      (unopened : Journal.Unopened world.files s.logFile e) (foreign : ¬ e.OfSystem) :
      Escapes world c globals e
  | uncredentialed {s : Settings} {files : Files} {e : Failure}
      (completing : Completing world globals s files) (failed : Uncredentialed files s e)
      (unnamed : ¬ CertificateNamed files s.tlsCaFile) : Escapes world c globals e
  | unready {s : Settings} {files : Files} {params : ChannelParams} {e : Failure}
      (completing : Completing world globals s files)
      (opened : channelParams files s = .ok params)
      (timely : ¬ Channel.Late (hurried s) c.readiness)
      (fails : c.readiness.ending.failure? = some e) (foreign : ¬ e.OfSystem) :
      Escapes world c globals e
  | unread {s : Settings} {files : Files} {e : Failure}
      (completing : Completing world globals s files)
      (reached : Channel.Reached files (hurried s) c.readiness)
      (first : Stream.FailsFirst Client.backupEntry c.backups.items c.backups.ending e)
      (ended : e ≠ .cancelled) (uncalled : ∀ fault, e ≠ .rpc fault) (foreign : ¬ e.OfSystem) :
      Escapes world c globals e

theorem unresolved_iff : globals.settings world [] = .error e ∧ complaint? e = none ↔
    (globals.inputs world).Escapes e ∧ ¬ e.OfSystem := by
  rw [Inputs.escapes_iff, globals.resolve_inputs, complaint?_eq_none_iff, and_assoc]

theorem unlogged_iff (made : s.Made) {journal : Journal} :
    (Journal.setUp files journal (.ofSettings s)).2.2 = .error e ∧ complaint? e = none ↔
      Journal.Unopened files s.logFile e ∧ ¬ e.OfSystem := by
  rw [Journal.setUp_eq_error_iff made, complaint?_eq_none_iff]
  refine and_congr_right fun unopened => and_iff_right fun cause => ?_
  cases unopened with
  | homeless asked unknown => exact ConfigFile.homeless_ne_refused _ cause
  | unnamed | unusable => simp

theorem not_ofSystem_homeless (path : Path) : ¬ (ConfigFile.homeless path).OfSystem := by
  rcases ConfigFile.homeless_cases path with same | ⟨text, same⟩ <;> simp [same, Failure.OfSystem]

theorem not_ofSystem_of_loadCertificates {file : String}
    (failed : loadCertificates files file = .error e) : ¬ e.OfSystem := by
  have loads := loads files file
  rw [failed] at loads
  cases loads with
  | homeless unexpanded foreign =>
    rw [ConfigFile.eq_homeless_of_expand unexpanded]
    exact not_ofSystem_homeless _
  | unnamed | unreadable | unmarked => simp [Failure.OfSystem]

theorem unopened_iff (made : s.Made) : channelParams files s = .error e ∧ complaint? e = none ↔
    Uncredentialed files s e ∧ ¬ CertificateNamed files s.tlsCaFile := by
  obtain ⟨compression, supported⟩ := made.compression
  rw [complaint?_eq_none_iff]
  constructor
  · rintro ⟨failed, unrefused, _⟩
    rcases channelParams_eq_error_iff.1 failed with
      ⟨cause, unsupported, _⟩ | ⟨_, _, secured, unloaded⟩
    · cases supported.symm.trans unsupported
    · refine ⟨⟨⟨compression, supported⟩, secured, unloaded⟩, fun named => ?_⟩
      obtain ⟨cause, refused⟩ := (loadCertificates_refused_iff unloaded).2 named
      exact unrefused cause refused
  · rintro ⟨failed, unnamed⟩
    refine ⟨failed.unopened, fun cause refused => ?_, not_ofSystem_of_loadCertificates failed.2.2⟩
    exact unnamed ((loadCertificates_refused_iff failed.2.2).1 ⟨cause, refused⟩)

theorem unready_iff (uninterrupted : c.readiness.ending ≠ .interrupted) :
    (Channel.await (hurried s) c.readiness).outcome = .error e ∧ complaint? e = none ↔
      ¬ Channel.Late (hurried s) c.readiness ∧ c.readiness.ending.failure? = some e ∧
        ¬ e.OfSystem := by
  rw [complaint?_eq_none_iff]
  by_cases late : Channel.Late (hurried s) c.readiness
  · -- A channel that is too late is told, whatever becomes of it.
    rw [Channel.await_of_late late]
    refine iff_of_false ?_ fun timely => timely.1 late
    rintro ⟨failed, unrefused, _⟩
    exact unrefused _ (Except.error.inj failed).symm
  · rw [Channel.await_of_timely late, Stream.outcome_act]
    cases ending : c.readiness.ending with
    | complete => simp [Ending.failure?]
    | fails fault | breaks kind text =>
      simp only [Ending.failure?, Except.error.injEq, Option.some.injEq, late, not_false_eq_true,
        true_and]
      refine and_congr_right ?_
      rintro rfl
      simp
    | blocked => exact absurd (late_hurried ending) late
    | interrupted => exact absurd ending uninterrupted

theorem failsFirst_cases
    (first : Stream.FailsFirst Client.backupEntry c.backups.items c.backups.ending e) :
    e = .malformedMessage ∨ c.backups.ending.failure? = some e := by
  cases first with
  | item place converted fails => exact .inl (Listing.convert_error (l := .backups) fails)
  | ending converted fails => exact .inr fails

theorem told_of_uncalled (uncalled : ∀ fault, e ≠ .rpc fault) (operation : String) :
    Stream.told operation e = e := by
  cases e with
  | rpc fault => exact absurd rfl (uncalled fault)
  | _ => rfl

theorem failsFirst_of_reads (failed : Listing.backups.Reads c (.error e))
    (unrefused : ∀ cause, e ≠ .refused cause) :
    Stream.FailsFirst Client.backupEntry c.backups.items c.backups.ending e ∧
      ∀ fault, e ≠ .rpc fault := by
  generalize same : (Except.error e : Except Failure (List BackupEntry)) = outcome at failed
  cases failed with
  | whole converted ended closed => cases same
  | unclosed converted ended fault =>
    cases same
    exact absurd rfl (unrefused _)
  | @broken first stopped =>
    have same := Except.error.inj same
    have uncalled : ∀ fault, first ≠ .rpc fault := by
      rintro fault rfl
      exact unrefused _ same
    rw [told_of_uncalled uncalled] at same
    exact same ▸ ⟨stopped, uncalled⟩

theorem blocked_of_cancelled (uninterrupted : c.backups.ending ≠ .interrupted)
    (first : Stream.FailsFirst Client.backupEntry c.backups.items c.backups.ending .cancelled) :
    c.backups.ending = .blocked := by
  rcases failsFirst_cases first with other | fails
  · cases other
  · cases ending : c.backups.ending with
    | blocked => rfl
    | interrupted => exact absurd ending uninterrupted
    | complete | fails | breaks => rw [ending] at fails; cases fails

theorem unread_iff (uninterrupted : c.backups.ending ≠ .interrupted) :
    Completion.Unread c e ∧ complaint? e = none ↔
      Stream.FailsFirst Client.backupEntry c.backups.items c.backups.ending e ∧
        e ≠ .cancelled ∧ (∀ fault, e ≠ .rpc fault) ∧ ¬ e.OfSystem := by
  rw [complaint?_eq_none_iff]
  constructor
  · rintro ⟨unread, unrefused, foreign⟩
    cases unread with
    | late failed blocked => exact absurd rfl (unrefused _)
    | timedOut failed => exact absurd rfl (unrefused _)
    | failed failed ended punctual =>
      obtain ⟨first, uncalled⟩ := failsFirst_of_reads failed unrefused
      refine ⟨first, ?_, uncalled, foreign⟩
      rintro rfl
      rcases ended with other | ends
      · exact other rfl
      · exact ends (blocked_of_cancelled uninterrupted first)
  · rintro ⟨first, ended, uncalled, foreign⟩
    have failed : Listing.backups.Reads c (.error e) :=
      told_of_uncalled uncalled Listing.backups.subject ▸ .broken first
    have punctual (text : String) : e ≠ .raised .timeout text := by
      rintro rfl
      exact foreign nofun
    refine ⟨.failed failed (.inl ended) punctual, fun cause => ?_, foreign⟩
    rcases failsFirst_cases first with rfl | fails
    · simp
    · cases ending : c.backups.ending <;> rw [ending] at fails <;> cases fails <;> simp

theorem escapes_iff (uninterrupted : c.Uninterrupted) :
    Escapes world c globals e ↔ Fails world c globals e ∧ complaint? e = none := by
  constructor
  · intro escapes
    cases escapes with
    | unresolved escapes foreign =>
      obtain ⟨failed, untold⟩ := unresolved_iff.2 ⟨escapes, foreign⟩
      exact ⟨.unresolved failed, untold⟩
    | unlogged resolved unopened foreign =>
      obtain ⟨failed, untold⟩ := (unlogged_iff (made_of_settings resolved)).2 ⟨unopened, foreign⟩
      exact ⟨.unlogged resolved failed, untold⟩
    | uncredentialed completing failed unnamed =>
      obtain ⟨failed, untold⟩ := (unopened_iff completing.made).2 ⟨failed, unnamed⟩
      exact ⟨.unopened completing failed, untold⟩
    | unready completing opened timely fails foreign =>
      obtain ⟨failed, untold⟩ := (unready_iff uninterrupted.1).2 ⟨timely, fails, foreign⟩
      exact ⟨.unready completing opened failed, untold⟩
    | unread completing reached first ended uncalled foreign =>
      obtain ⟨failed, untold⟩ :=
        (unread_iff uninterrupted.2).2 ⟨first, ended, uncalled, foreign⟩
      exact ⟨.unread completing reached failed, untold⟩
  · rintro ⟨fails, untold⟩
    cases fails with
    | unresolved failed =>
      obtain ⟨escapes, foreign⟩ := unresolved_iff.1 ⟨failed, untold⟩
      exact .unresolved escapes foreign
    | unlogged resolved failed =>
      obtain ⟨unopened, foreign⟩ := (unlogged_iff (made_of_settings resolved)).1 ⟨failed, untold⟩
      exact .unlogged resolved unopened foreign
    | unopened completing failed =>
      obtain ⟨failed, unnamed⟩ := (unopened_iff completing.made).1 ⟨failed, untold⟩
      exact .uncredentialed completing failed unnamed
    | unready completing opened failed =>
      obtain ⟨timely, fails, foreign⟩ := (unready_iff uninterrupted.1).1 ⟨failed, untold⟩
      exact .unready completing opened timely fails foreign
    | unread completing reached failed =>
      obtain ⟨first, ended, uncalled, foreign⟩ :=
        (unread_iff uninterrupted.2).1 ⟨failed, untold⟩
      exact .unread completing reached first ended uncalled foreign

/-- Completion answers, and where one of its stages fails, with nothing. -/
structure Tolerant (world : World) (c : Coordinator) (globals : Globals) (incomplete : String) :
    Prop where
  answers : ∃ found, (complete world c globals incomplete).run.outcome = .ok found
  nothing : ∀ e, Fails world c globals e →
    (complete world c globals incomplete).run.outcome = .ok []

theorem tolerant_iff_tolerated {p : String} :
    Tolerant world c globals p ↔ ∀ e, Fails world c globals e → complaint? e ≠ none := by
  constructor
  · intro tolerant e fails untold
    obtain ⟨found, answered⟩ := tolerant.answers
    cases answered.symm.trans (outcome_complete_eq_error_iff.2 ⟨fails, untold⟩)
  · intro told
    have nothing (e : Failure) (fails : Fails world c globals e) :
        (complete world c globals p).run.outcome = .ok [] := by
      rw [fails.outcome_complete, tolerated, if_pos (Option.isSome_iff_ne_none.2 (told e fails))]
    refine ⟨?_, nothing⟩
    rcases completes_or_fails world c globals with ⟨entries, completes⟩ | ⟨e, fails⟩
    · exact ⟨_, completes.outcome_complete p⟩
    · exact ⟨_, nothing e fails⟩

def bareWorld : World := ⟨.ofHome "/home", []⟩

theorem completing_bareWorld : Completing bareWorld {} Settings.defaults bareWorld.files :=
  ⟨rfl, _, rfl⟩

theorem opened_bareWorld : channelParams bareWorld.files Settings.defaults =
    .ok ⟨"127.0.0.1:10001", some .gzip, none, [.unary, .stream]⟩ := rfl

def silentCoordinator : Coordinator where
  readiness := { ending := .blocked }

def brokenStream : Coordinator where
  backups := { items := [], ending := .breaks .other "boom" }

end Session

end BackupConsole
