import BackupConsole.Proofs.CommandLine.Override
import BackupConsole.Proofs.Connection.Discipline
import BackupConsole.Proofs.Interrupt.Stopped

set_option autoImplicit false

namespace BackupConsole

open CommandLine (Invocation)
open Contract (Method)

variable {α : Type}

def Run.Untouched (run : Run α) : Prop := run.channels = [] ∧ run.calls = []

def Settings.Rejected (s : Settings) : Prop :=
  s.backupType ∉ ["logical", "hot"] ∨ s.compressionAlgorithm ∉ ["", "none", "gzip"] ∨
    s.encryptionAlgorithm ≠ ""

theorem backupTypeOf?_eq_some {name : String} {n : Int32} (named : backupTypeOf? name = some n) :
    name ∈ ["logical", "hot"] ∧ n ∈ [0, 1] := by
  unfold backupTypeOf? at named
  split at named <;> cases named <;> simp

theorem compressionTypeOf?_eq_some {name : String} {n : Int32}
    (named : compressionTypeOf? name = some n) : name ∈ ["", "none", "gzip"] ∧ n ∈ [0, 1] := by
  unfold compressionTypeOf? at named
  split at named <;> cases named <;> simp

theorem BackupRequest.unmade_of_rejected {s : Settings} (rejected : s.Rejected) :
    ∃ cause, BackupRequest.ofSettings s = .error cause := by
  cases made : BackupRequest.ofSettings s with
  | error cause => exact ⟨cause, rfl⟩
  | ok r =>
    obtain ⟨named, compressed, plain, _⟩ := BackupRequest.ofSettings_eq_ok_iff.1 made
    rcases rejected with unnamed | uncompressed | encrypted
    · exact absurd (backupTypeOf?_eq_some named).1 unnamed
    · exact absurd (compressionTypeOf?_eq_some compressed).1 uncompressed
    · exact absurd plain encrypted

theorem Command.eq_of_method? {a b : Command} {method : Method} (own : a.method? = some method)
    (also : b.method? = some method) : a = b := by
  cases a <;> cases own <;> cases b <;> first | rfl | cases also

namespace CommandLine

theorem given_ne_of_complete {s : Settings} {command : Command}
    (complete : missing? s command = none) {k : Setting} {name : String}
    (required : (k, name) ∈ requiredOf command) : s.given k ≠ .text "" := by
  rw [missing?, List.findSome?_eq_none_iff] at complete
  intro empty
  have found := complete _ required
  simp [empty] at found

theorem missing?_of_empty {s : Settings} {command : Command} {k : Setting} {name : String}
    (required : (k, name) ∈ requiredOf command) (empty : s.given k = .text "") :
    ∃ j first, (j, first) ∈ requiredOf command ∧ s.given j = .text "" ∧
      missing? s command = some (.valueRequired first) := by
  cases missing : missing? s command with
  | none => exact absurd empty (given_ne_of_complete missing required)
  | some e =>
    obtain ⟨⟨j, first⟩, listed, told⟩ := List.exists_of_findSome?_eq_some missing
    simp only at told
    split at told
    next absent =>
      cases told
      exact ⟨j, first, listed, eq_of_beq absent, rfl⟩
    next => cases told

end CommandLine

namespace Session

variable {world : World} {args : List String} {i : Invocation} {s : Settings} {files : Files}
  {c : Coordinator}

theorem runCommand_ok {command : Command} {exit : Exit}
    (ended : (runCommand files s c command).outcome = .ok exit) :
    ∃ code, exit = .finished code ∧ code ≠ Exit.usageCode := by
  by_cases signal : (runCommand files s c command).signals = 0
  · rw [(Interrupt.runCommand_of_unsignalled signal).2, Command.outcome_dispatch] at ended
    cases performed : (command.perform files s c).outcome with
    | ok done =>
      rw [performed] at ended
      cases ended
      exact ⟨_, rfl, by decide⟩
    | error e =>
      rw [performed] at ended
      cases e <;> cases ended
      exact ⟨_, rfl, by decide⟩
  · rw [Interrupt.finished_exitCode_iff.2 signal] at ended
    cases ended
    exact ⟨_, rfl, by decide⟩

theorem calls_runCommand (files : Files) (s : Settings) (c : Coordinator) (command : Command) :
    (runCommand files s c command).calls = ((Errand.command command).run files s c).calls :=
  (observe_runCommand (fun _ => rfl) files s c command).trans
    (Command.observe_dispatch _ (fun _ => rfl) files s c command).symm

theorem untouched_of_unprepared {outcome : Except Failure Exit}
    (ran : (start world c args).run = ⟨outcome, []⟩) : (start world c args).run.Untouched := by
  rw [ran]
  exact ⟨rfl, rfl⟩

theorem start_of_incomplete {journal : Journal} {e : CommandLine.UsageError}
    (parsed : CommandLine.parse args = .ok i) (resolved : i.settings world = .ok s)
    (logged : Journal.setUp world.files {} (.ofSettings s) = (files, journal, .ok ()))
    (missing : CommandLine.missing? s i.command = some e) :
    (start world c args).run = ⟨.ok (.stopped (.mistake e)), []⟩ := by
  simp only [start, execute, parsed, resolved, logged, missing]
  rfl

theorem runCommand_of_rejected (rejected : s.Rejected) :
    (runCommand files s c .runBackup).outcome = .ok (.finished Command.exitFailure) ∧
      (runCommand files s c .runBackup).Untouched := by
  obtain ⟨cause, unmade⟩ := BackupRequest.unmade_of_rejected rejected
  have performed : Command.runBackup.perform files s c = ⟨.error (.refused cause), []⟩ := by
    rw [Command.perform, unmade]
    rfl
  have deeds : (runCommand files s c .runBackup).deeds =
      (Command.runBackup.perform files s c).deeds :=
    observe_runCommand (fun _ => rfl) files s c .runBackup
  have unsignalled : (runCommand files s c .runBackup).signals = 0 := by
    rw [Interrupt.signals_eq_of_deeds deeds, performed]
    rfl
  refine ⟨?_, ?_, ?_⟩
  · rw [(Interrupt.runCommand_of_unsignalled unsignalled).2, Command.outcome_dispatch, performed]
    rfl
  · rw [Run.channels_eq, observe_runCommand fun _ => rfl, performed]
    rfl
  · rw [Run.calls_eq, observe_runCommand fun _ => rfl, performed]
    rfl

theorem restoreMetadataFile_eq (parsed : CommandLine.parse args = .ok i)
    (resolved : i.settings world = .ok s) (restore : i.command = .runRestore) :
    ∃ line, CommandLine.Line.Reads args line ∧ line.command = .runRestore ∧
      line.words = [s.restoreMetadataFile] := by
  obtain ⟨line, reads, makes⟩ := CommandLine.Line.reads_of_parse parsed
  obtain ⟨entries, _, checked⟩ := Inputs.check_value ((i.resolve_inputs world).trans resolved)
  have command : line.command = .runRestore := by
    cases makes
    exact restore
  obtain ⟨file, word⟩ : ∃ file, line.words = [file] := by
    cases makes with
    | intro before after rest =>
      rcases CommandLine.Line.readWords_eq_ok rest with ⟨file, _, word, _⟩ | ⟨other, _⟩
      · exact ⟨file, word⟩
      · exact absurd command other
  have gives : line.Gives .restoreMetadataFile (.text file) := .word command word
  have check := checked .restoreMetadataFile
  rw [CommandLine.value_of_gives reads makes gives] at check
  have same : Given.text s.restoreMetadataFile = .text file :=
    CommandLine.Line.give_eq_of_gives reads gives check
  cases same
  exact ⟨line, reads, command, word⟩

theorem asks_of_call {command : Command} {call : SentCall} {method : Method}
    (sent : call ∈ (runCommand files s c command).calls) (named : call.method = method.path) :
    command.method? = some method ∧ command.request s = .ok call.request := by
  rw [calls_runCommand] at sent
  obtain ⟨_, own, request, asks, rfl⟩ := Errand.sends_of_call sent
  have same := Contract.Method.path_injective named
  subst same
  exact ⟨asks.own, asks.made⟩

/-- A run that sends valid requests only, and none where it ends before its command or where an
option is rejected. -/
structure OnlyValidSent (world : World) (args : List String) (run : Run Exit) : Prop where
  -- What is sent decodes to the request, unless a text of it is longer than any message may be.
  backups : ∀ call ∈ run.calls, call.method = Method.runBackup.path → ∃ r : BackupRequest,
    r.backupType ∈ [0, 1] ∧ r.compressionType ∈ [0, 1] ∧ r.cypher = 0 ∧ r.description ≠ "" ∧
    r.storageName ≠ "" ∧ call.request = Contract.encode r.toMessage ∧
    ∀ m, Contract.decode .runBackupParams call.request = some m ↔ m = r.toMessage ∧ r.Fits
  restores : ∀ call ∈ run.calls, call.method = Method.runRestore.path →
    ∃ (r : RestoreRequest) (line : CommandLine.Line), CommandLine.Line.Reads args line ∧
    line.command = .runRestore ∧ line.words = [r.metadataFile] ∧ r.storageName ≠ "" ∧
    call.request = Contract.encode r.toMessage ∧
    ∀ m, Contract.decode .runRestoreParams call.request = some m ↔ m = r.toMessage ∧ r.Fits
  misused : ∀ exit, run.outcome = .ok exit → exit.code = Exit.usageCode → run.Untouched
  unusable : ∀ cause, run.outcome = .ok (.unusable cause) → run.Untouched
  incomplete : ∀ i s files journal k name, CommandLine.parse args = .ok i →
    i.settings world = .ok s →
    Journal.setUp world.files {} (.ofSettings s) = (files, journal, .ok ()) →
    (k, name) ∈ CommandLine.requiredOf i.command → s.given k = .text "" →
    run.Untouched ∧ ∃ j first, (j, first) ∈ CommandLine.requiredOf i.command ∧
      s.given j = .text "" ∧ run.outcome = .ok (.stopped (.mistake (.valueRequired first)))
  rejected : ∀ i s, CommandLine.parse args = .ok i → i.settings world = .ok s →
    i.command = .runBackup → s.Rejected → run.Untouched ∧ ∀ files,
      Prepared world args i s files → run.outcome = .ok (.finished Command.exitFailure)

theorem sends_valid_of_untouched {run : Run Exit} (untouched : run.Untouched)
    (incomplete : ∀ i s files journal k name, CommandLine.parse args = .ok i →
      i.settings world = .ok s →
      Journal.setUp world.files {} (.ofSettings s) = (files, journal, .ok ()) →
      (k, name) ∈ CommandLine.requiredOf i.command → s.given k = .text "" →
      ∃ j first, (j, first) ∈ CommandLine.requiredOf i.command ∧ s.given j = .text "" ∧
        run.outcome = .ok (.stopped (.mistake (.valueRequired first))))
    (unprepared : ∀ i s files, ¬ Prepared world args i s files) :
    OnlyValidSent world args run := by
  have unsent := untouched.2
  refine {
    backups := ?_
    restores := ?_
    misused := fun _ _ _ => untouched
    unusable := fun _ _ => untouched
    incomplete := ?_
    rejected := ?_ }
  · intro call sent
    rw [unsent] at sent
    cases sent
  · intro call sent
    rw [unsent] at sent
    cases sent
  · intro i s files journal k name parsed resolved logged required empty
    exact ⟨untouched, incomplete i s files journal k name parsed resolved logged required empty⟩
  · intro i s parsed resolved command rejected
    exact ⟨untouched, fun files prepared => absurd prepared (unprepared i s files)⟩

theorem backup_of_made {bytes : List UInt8}
    (complete : CommandLine.missing? s .runBackup = none)
    (made : Operation.backup.request s = .ok bytes) : ∃ r : BackupRequest,
      r.backupType ∈ [0, 1] ∧ r.compressionType ∈ [0, 1] ∧ r.cypher = 0 ∧ r.description ≠ "" ∧
      r.storageName ≠ "" ∧ bytes = Contract.encode r.toMessage := by
  cases built : BackupRequest.ofSettings s with
  | error cause =>
    rw [Operation.request, built] at made
    cases made
  | ok r =>
    rw [Operation.request, built] at made
    cases made
    obtain ⟨named, compressed, _, cypher, described, stored⟩ :=
      BackupRequest.ofSettings_eq_ok_iff.1 built
    have description : s.given .description ≠ .text "" :=
      CommandLine.given_ne_of_complete complete (by decide : (_, "--description") ∈ _)
    have storage : s.given .storageName ≠ .text "" :=
      CommandLine.given_ne_of_complete complete (by decide : (_, "--storage") ∈ _)
    refine ⟨r, (backupTypeOf?_eq_some named).2, (compressionTypeOf?_eq_some compressed).2, cypher,
      ?_, ?_, rfl⟩
    · rw [described]
      exact fun empty => description (congrArg Given.text empty)
    · rw [stored]
      exact fun empty => storage (congrArg Given.text empty)

theorem Prepared.sends_valid (prepared : Prepared world args i s files) (c : Coordinator) :
    OnlyValidSent world args (runCommand files s c i.command) := by
  have complete := prepared.complete
  refine {
    backups := ?_
    restores := ?_
    misused := ?_
    unusable := ?_
    incomplete := ?_
    rejected := ?_ }
  · intro call sent named
    obtain ⟨own, made⟩ := asks_of_call sent named
    have command : i.command = .runBackup := Command.eq_of_method? own rfl
    rw [command] at made complete
    obtain ⟨r, kind, compressed, plain, described, stored, bytes⟩ := backup_of_made complete made
    refine ⟨r, kind, compressed, plain, described, stored, bytes, fun m => ?_⟩
    rw [bytes]
    exact r.decode_toMessage
  · intro call sent named
    obtain ⟨own, made⟩ := asks_of_call sent named
    have command : i.command = .runRestore := Command.eq_of_method? own rfl
    obtain ⟨line, reads, restore, word⟩ :=
      restoreMetadataFile_eq prepared.parsed prepared.resolved command
    rw [command] at made complete
    have bytes : Contract.encode (RestoreRequest.ofSettings s).toMessage = call.request :=
      Except.ok.inj made
    have storage : s.given .storageName ≠ .text "" :=
      CommandLine.given_ne_of_complete complete (by decide : (_, "--storage") ∈ _)
    refine ⟨.ofSettings s, line, reads, restore, word, ?_, bytes.symm, fun m => ?_⟩
    · exact fun empty => storage (congrArg Given.text empty)
    · rw [← bytes]
      exact RestoreRequest.decode_toMessage
  · intro exit ended usage
    obtain ⟨code, rfl, other⟩ := runCommand_ok ended
    exact absurd usage other
  · intro cause ended
    obtain ⟨code, finished, _⟩ := runCommand_ok ended
    cases finished
  · intro j t others journal k name parsed resolved logged required empty
    cases prepared.parsed.symm.trans parsed
    cases prepared.resolved.symm.trans resolved
    exact absurd empty (CommandLine.given_ne_of_complete complete required)
  · intro j t parsed resolved command rejected
    cases prepared.parsed.symm.trans parsed
    cases prepared.resolved.symm.trans resolved
    rw [command]
    obtain ⟨failed, untouched⟩ := runCommand_of_rejected rejected
    exact ⟨untouched, fun _ _ => failed⟩

/-- Whatever is typed and configured, and however the coordinator behaves, nothing invalid is
sent. -/
theorem nothing_invalid_sent (world : World) (c : Coordinator) (args : List String) :
    OnlyValidSent world args (start world c args).run := by
  rcases run_start world c args with ⟨i, s, files, prepared, ran⟩ | ⟨outcome, unprepared, ran⟩
  · rw [ran]
    exact prepared.sends_valid c
  · refine sends_valid_of_untouched (untouched_of_unprepared ran) ?_ fun _ _ _ =>
      unprepared.not_prepared
    intro i s files journal k name parsed resolved logged required empty
    obtain ⟨j, first, listed, absent, missing⟩ := CommandLine.missing?_of_empty required empty
    rw [start_of_incomplete parsed resolved logged missing]
    exact ⟨j, first, listed, absent, rfl⟩

end Session

end BackupConsole
