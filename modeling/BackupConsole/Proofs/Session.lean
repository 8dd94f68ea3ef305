import BackupConsole.Session
import BackupConsole.Proofs.Run

set_option autoImplicit false

namespace BackupConsole.Session

open CommandLine (Invocation Stop)

/-- All that has to hold before the command of a line begins, with the files as the journal left
them. -/
structure Prepared (world : World) (args : List String) (i : Invocation) (s : Settings)
    (files : Files) : Prop where
  parsed : CommandLine.parse args = .ok i
  resolved : i.settings world = .ok s
  logged : ∃ journal, Journal.setUp world.files {} (.ofSettings s) = (files, journal, .ok ())
  complete : CommandLine.missing? s i.command = none

inductive Unprepared (world : World) (args : List String) : Except Failure Exit → Prop
  | stopped {reason : Stop} (unparsed : CommandLine.parse args = .error reason) :
      Unprepared world args (.ok (.stopped reason))
  | unusable {i : Invocation} {cause : Cause} (parsed : CommandLine.parse args = .ok i)
      (unresolved : i.settings world = .error (.refused cause)) :
      Unprepared world args (.ok (.unusable cause))
  | broken {i : Invocation} {e : Failure} (parsed : CommandLine.parse args = .ok i)
      (unresolved : i.settings world = .error e) (foreign : ∀ cause, e ≠ .refused cause) :
      Unprepared world args (.error e)
  | unlogged {i : Invocation} {s : Settings} {files : Files} {journal : Journal} {e : Failure}
      (parsed : CommandLine.parse args = .ok i) (resolved : i.settings world = .ok s)
      (unlogged : Journal.setUp world.files {} (.ofSettings s) = (files, journal, .error e)) :
      Unprepared world args (.error e)
  | incomplete {i : Invocation} {s : Settings} {e : CommandLine.UsageError}
      (parsed : CommandLine.parse args = .ok i) (resolved : i.settings world = .ok s)
      (missing : CommandLine.missing? s i.command = some e) :
      Unprepared world args (.ok (.stopped (.mistake e)))

variable {world : World} {args : List String} {i j : Invocation} {s t : Settings}
  {files others : Files}

theorem Prepared.unique (prepared : Prepared world args i s files)
    (also : Prepared world args j t others) : i = j ∧ s = t ∧ files = others := by
  obtain ⟨parsed, resolved, ⟨journal, logged⟩, _⟩ := prepared
  obtain ⟨reparsed, reresolved, ⟨_, relogged⟩, _⟩ := also
  cases parsed.symm.trans reparsed
  cases resolved.symm.trans reresolved
  cases logged.symm.trans relogged
  exact ⟨rfl, rfl, rfl⟩

theorem Unprepared.not_prepared {outcome : Except Failure Exit}
    (unprepared : Unprepared world args outcome) : ¬ Prepared world args i s files := by
  rintro ⟨parsed, resolved, ⟨journal, logged⟩, complete⟩
  cases unprepared with
  | stopped unparsed => cases parsed.symm.trans unparsed
  | unusable reparsed unresolved =>
    cases parsed.symm.trans reparsed
    cases resolved.symm.trans unresolved
  | broken reparsed unresolved foreign =>
    cases parsed.symm.trans reparsed
    cases resolved.symm.trans unresolved
  | unlogged reparsed reresolved unlogged =>
    cases parsed.symm.trans reparsed
    cases resolved.symm.trans reresolved
    cases logged.symm.trans unlogged
  | incomplete reparsed reresolved missing =>
    cases parsed.symm.trans reparsed
    cases resolved.symm.trans reresolved
    cases complete.symm.trans missing

theorem run_start (world : World) (c : Coordinator) (args : List String) :
    (∃ i s files, Prepared world args i s files ∧
      (start world c args).run = runCommand files s c i.command) ∨
    ∃ outcome, Unprepared world args outcome ∧ (start world c args).run = ⟨outcome, []⟩ := by
  cases parsed : CommandLine.parse args with
  | error reason =>
    refine .inr ⟨_, .stopped parsed, ?_⟩
    rw [start, parsed]
    rfl
  | ok i =>
    have started : start world c args = execute world c i := by rw [start, parsed]
    rw [started]
    cases resolved : i.settings world with
    | error e =>
      cases e with
      | refused cause =>
        refine .inr ⟨_, .unusable parsed resolved, ?_⟩
        rw [execute, resolved]
        rfl
      | _ =>
        refine .inr ⟨_, .broken parsed resolved fun cause => Failure.noConfusion, ?_⟩
        rw [execute, resolved]
        rfl
    | ok s =>
      match logged : Journal.setUp world.files {} (.ofSettings s) with
      | (files, journal, .error e) =>
        refine .inr ⟨_, .unlogged parsed resolved logged, ?_⟩
        simp only [execute, resolved, logged]
        rfl
      | (files, journal, .ok ()) =>
        cases missing : CommandLine.missing? s i.command with
        | some e =>
          refine .inr ⟨_, .incomplete parsed resolved missing, ?_⟩
          simp only [execute, resolved, logged, missing]
          rfl
        | none =>
          refine .inl ⟨i, s, files, ⟨parsed, resolved, ⟨journal, logged⟩, missing⟩, ?_⟩
          simp only [execute, resolved, logged, missing]

end BackupConsole.Session
