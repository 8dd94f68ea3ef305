import BackupConsole.Proofs.CommandLine.Line
import BackupConsole.Proofs.Settings.Accepted
import BackupConsole.Proofs.Settings.Precedence

set_option autoImplicit false

namespace BackupConsole

theorem Setting.name_injective {j k : Setting} (same : j.name = k.name) : j = k := by
  have found := Setting.ofName?_eq_some_iff.2 same
  rw [Setting.ofName?_eq_some_iff.2 rfl] at found
  exact Option.some.inj found

theorem Setting.accept_eq {k : Setting} (plain : k ≠ .logLevel) {v w : k.Value}
    (accepted : k.accept v = .ok w) : w = v := by
  cases k with
  | logLevel => exact absurd rfl plain
  -- The others are accepted or refused, and never replaced.
  | serverAddress | serverCompressor | connectTimeout | logFormat =>
    simp only [accept] at accepted
    split at accepted <;> cases accepted
    rfl
  | _ =>
    cases accepted
    rfl

theorem Flags.value?_append (before after : Flags) (k : Setting) :
    Flags.value? (before ++ after) k = (after.value? k).or (before.value? k) :=
  Mapping.lastValue?_append (· == ·) before after k.name

namespace CommandLine

open Flags (value?_append)

def Intake.shape : Intake → Shape
  | text | oneOf _ => .text
  | real => .real
  | fixed _ => .bool

def Switch.fits (s : Switch) : Bool :=
  match s.slot with
  | .setting k =>
    decide (k.shape = s.intake.shape) && k != .logLevel && k != .restoreMetadataFile
  | .configFile => decide (s.intake = .text)
  | _ => true

theorem fits_globalSwitches : ∀ s ∈ globalSwitches, s.fits = true := by decide

theorem fits_switchesOf (command : Command) : ∀ s ∈ switchesOf command,
    s.fits = true ∧ s.slot ≠ .debug ∧ s.slot ≠ .configFile := by
  cases command <;> decide

theorem Typed.value_shape {t : Typed} {g : Given} (read : t.value = .ok g) :
    ∃ v, g = t.switch.intake.shape.give v := by
  unfold value at read
  cases intake : t.switch.intake with
  | text =>
    rw [intake] at read
    cases read
    exact ⟨t.text, rfl⟩
  | real =>
    simp only [intake] at read
    split at read <;> cases read
    exact ⟨_, rfl⟩
  | oneOf values =>
    simp only [intake] at read
    split at read <;> cases read
    exact ⟨t.text, rfl⟩
  | fixed b =>
    rw [intake] at read
    cases read
    exact ⟨b, rfl⟩

section FlagsOf

variable (v : Given) (rest : List (Slot × Given))

theorem flagsOf_help : flagsOf ((.help, v) :: rest) = flagsOf rest := rfl

theorem flagsOf_configFile : flagsOf ((.configFile, v) :: rest) = flagsOf rest := rfl

theorem flagsOf_debug : flagsOf ((.debug, v) :: rest) =
    (Setting.logLevel.name, .text "DEBUG") :: flagsOf rest := rfl

theorem flagsOf_setting (k : Setting) :
    flagsOf ((.setting k, v) :: rest) = (k.name, v) :: flagsOf rest := rfl

end FlagsOf

theorem value?_flagsOf_of_plain {values : List (Slot × Given)}
    (distinct : (values.map (·.1)).Nodup) {k : Setting} (plain : k ≠ .logLevel) :
    Flags.value? (flagsOf values) k = values.lookup (.setting k) := by
  induction values with
  | nil => rfl
  | cons entry rest ih =>
    obtain ⟨slot, v⟩ := entry
    obtain ⟨fresh, distinct⟩ := List.nodup_cons.1 distinct
    have ih := ih distinct
    rw [Mapping.lookup_cons_eq_ite, ← ih]
    cases slot with
    | help => simp [flagsOf_help]
    | configFile => simp [flagsOf_configFile]
    | debug =>
      have other : Setting.logLevel.name ≠ k.name := fun same =>
        plain (Setting.name_injective same).symm
      simp [flagsOf_debug, Flags.value?, Mapping.lastValue?_cons, other]
    | setting j =>
      rw [flagsOf_setting, Flags.value?, Mapping.lastValue?_cons, ← Flags.value?]
      by_cases same : j = k
      · subst same
        have unset := Mapping.lookup_eq_none_iff.2 fresh
        rw [unset] at ih
        rw [ih]
        simp
      · have other : j.name ≠ k.name := fun named => same (Setting.name_injective named)
        simp [other, Ne.symm same]

theorem value?_flagsOf_level {values : List (Slot × Given)}
    (leveled : .setting .logLevel ∉ values.map (·.1)) :
    Flags.value? (flagsOf values) .logLevel =
      if .debug ∈ values.map (·.1) then some (.text "DEBUG") else none := by
  induction values with
  | nil => rfl
  | cons entry rest ih =>
    obtain ⟨slot, v⟩ := entry
    rw [List.map_cons, List.mem_cons, not_or] at leveled
    have ih := ih leveled.2
    rw [List.map_cons]
    cases slot with
    | help =>
      rw [flagsOf_help, ih]
      simp only [List.mem_cons, reduceCtorEq, false_or]
    | configFile =>
      rw [flagsOf_configFile, ih]
      simp only [List.mem_cons, reduceCtorEq, false_or]
    | debug =>
      rw [flagsOf_debug, Flags.value?, Mapping.lastValue?_cons, ← Flags.value?, ih]
      by_cases again : .debug ∈ rest.map (·.1) <;> simp [again]
    | setting j =>
      have other : j.name ≠ Setting.logLevel.name := fun same =>
        leveled.1 (congrArg Slot.setting (Setting.name_injective same).symm)
      rw [flagsOf_setting, Flags.value?, Mapping.lastValue?_cons, ← Flags.value?, ih]
      simp only [List.mem_cons, reduceCtorEq, false_or, beq_eq_false_iff_ne.2 other,
        Bool.false_eq_true, if_false, Option.or_none]

namespace Line

/-- What a line gives for a setting: the value typed last for it, the level of the log where
debugging is asked for, and the one word of a restore. -/
inductive Gives (line : Line) : Setting → Given → Prop
  | option {k : Setting} {t : Typed} {g : Given}
      (last : LastTyped (line.globals ++ line.own) (.setting k) t) (read : t.value = .ok g) :
      Gives line k g
  | debug {t : Typed} (typed : t ∈ line.globals) (asks : t.switch.slot = .debug) :
      Gives line .logLevel (.text "DEBUG")
  | word {file : String} (restore : line.command = .runRestore) (word : line.words = [file]) :
      Gives line .restoreMetadataFile (.text file)

def NamesFile (line : Line) (name : String) : Prop :=
  ∃ t, LastTyped line.globals .configFile t ∧ t.text = name

theorem Reads.own {args : List String} {line : Line} (reads : Reads args line) :
    (∀ t ∈ line.globals, t.switch ∈ globalSwitches) ∧
      ∀ t ∈ line.own, t.switch ∈ switchesOf line.command := by
  cases reads with
  | direct before _ after => exact ⟨before.own, after.own⟩
  | grouped before _ _ _ after => exact ⟨before.own, after.own⟩

theorem Reads.fits {args : List String} {line : Line} (reads : Reads args line) :
    ∀ t ∈ line.globals ++ line.own, t.switch.fits = true := by
  intro t member
  rcases List.mem_append.1 member with before | after
  · exact fits_globalSwitches _ (reads.own.1 t before)
  · exact (fits_switchesOf line.command _ (reads.own.2 t after)).1

theorem readWords_eq_ok {command : Command} {words : List String} {flags : Flags}
    (accepted : readWords command words = .ok flags) :
    (∃ file, command = .runRestore ∧ words = [file] ∧
      flags = [(Setting.restoreMetadataFile.name, .text file)]) ∨
    command ≠ .runRestore ∧ words = [] ∧ flags = [] := by
  cases command with
  | runRestore =>
    match words with
    | [] => cases accepted
    | [file] =>
      cases accepted
      exact .inl ⟨file, rfl, rfl, rfl⟩
    | _ :: _ :: _ => cases accepted
  | _ =>
    cases words with
    | nil =>
      cases accepted
      simp
    | cons word extra => cases accepted

theorem value?_of_readWords {command : Command} {words : List String} {flags : Flags}
    (accepted : readWords command words = .ok flags) {k : Setting}
    (other : k ≠ .restoreMetadataFile) : flags.value? k = none := by
  rcases readWords_eq_ok accepted with ⟨file, rfl, rfl, rfl⟩ | ⟨_, rfl, rfl⟩
  · have differ : Setting.restoreMetadataFile.name ≠ k.name := fun same =>
      other (Setting.name_injective same).symm
    simp [Flags.value?, Mapping.lastValue?, differ]
  · rfl

variable {args : List String} {line : Line} {i : Invocation}

theorem Reads.unset (reads : Reads args line) {k : Setting}
    (special : k = .logLevel ∨ k = .restoreMetadataFile) :
    ∀ t ∈ line.globals ++ line.own, t.switch.slot ≠ .setting k := by
  intro t typed same
  have fits := reads.fits t typed
  rw [Switch.fits, same] at fits
  rcases special with rfl | rfl <;> simp at fits

theorem Reads.not_option (reads : Reads args line) {k : Setting}
    (special : k = .logLevel ∨ k = .restoreMetadataFile) {t : Typed} :
    ¬ LastTyped (line.globals ++ line.own) (.setting k) t :=
  fun last => reads.unset special t last.mem.1 last.mem.2

section Flags

variable {globals own : List (Slot × Given)} {flags : Flags}

theorem level_iff_gives (reads : Reads args line) (before : Values line.globals globals)
    (after : Values line.own own) (rest : readWords line.command line.words = .ok flags)
    {g : Given} : Flags.value? (flagsOf globals ++ (flagsOf own ++ flags)) .logLevel = some g ↔
      line.Gives .logLevel g := by
  have unset := List.forall_mem_append.1 (reads.unset (.inl rfl))
  -- Debugging can be asked for only before the command.
  have undebugged : .debug ∉ own.map (·.1) := after.not_mem_keys_iff.2 fun t typed =>
    (fits_switchesOf _ _ (reads.own.2 t typed)).2.1
  rw [value?_append, value?_append, value?_of_readWords rest (by decide),
    value?_flagsOf_level (after.not_mem_keys_iff.2 unset.2),
    value?_flagsOf_level (before.not_mem_keys_iff.2 unset.1), if_neg undebugged]
  simp only [Option.or_none, Option.none_or, before.mem_keys_iff]
  constructor
  · intro given
    split at given
    next asked =>
      obtain ⟨t, typed, asks⟩ := asked
      cases given
      exact .debug typed asks
    next => cases given
  · intro gives
    cases gives with
    | option last => exact absurd last (reads.not_option (.inl rfl))
    | debug typed asks => rw [if_pos ⟨_, typed, asks⟩]

theorem word_iff_gives (reads : Reads args line) (before : Values line.globals globals)
    (after : Values line.own own) (rest : readWords line.command line.words = .ok flags)
    {g : Given} :
    Flags.value? (flagsOf globals ++ (flagsOf own ++ flags)) .restoreMetadataFile = some g ↔
      line.Gives .restoreMetadataFile g := by
  have unset := List.forall_mem_append.1 (reads.unset (.inr rfl))
  rw [value?_append, value?_append, value?_flagsOf_of_plain before.distinct (by decide),
    value?_flagsOf_of_plain after.distinct (by decide), before.lookup_eq_none_iff.2 unset.1,
    after.lookup_eq_none_iff.2 unset.2, Option.or_none, Option.or_none]
  constructor
  · intro given
    rcases readWords_eq_ok rest with ⟨file, restore, word, rfl⟩ | ⟨_, _, rfl⟩
    · cases given
      exact .word restore word
    · cases given
  · intro gives
    cases gives with
    | option last => exact absurd last (reads.not_option (.inr rfl))
    | word restore word =>
      rcases readWords_eq_ok rest with ⟨file, _, same, rfl⟩ | ⟨other, _, _⟩
      · cases word.symm.trans same
        rfl
      · exact absurd restore other

theorem value?_iff_gives (reads : Reads args line) (makes : line.Makes i) {k : Setting}
    {g : Given} : Flags.value? (i.globals.flags ++ i.flags) k = some g ↔ line.Gives k g := by
  cases makes with
  | @intro globals own flags before after rest =>
    rw [Globals.ofValues]
    -- The level of the log and the file to restore come from no switch of their own.
    by_cases level : k = .logLevel
    · subst level
      exact level_iff_gives reads before after rest
    by_cases restored : k = .restoreMetadataFile
    · subst restored
      exact word_iff_gives reads before after rest
    rw [value?_append, value?_append, value?_of_readWords rest restored, Option.none_or,
      value?_flagsOf_of_plain before.distinct level, value?_flagsOf_of_plain after.distinct level,
      before.lookup_or_eq_some_iff after]
    constructor
    · rintro ⟨t, last, made⟩
      exact .option last made
    · intro gives
      cases gives with
      | option last made => exact ⟨_, last, made⟩
      | debug => exact absurd rfl level
      | word => exact absurd rfl restored

end Flags

theorem configFile_eq_some_iff (reads : Reads args line) (makes : line.Makes i) {name : String} :
    i.globals.configFile = some name ↔ line.NamesFile name := by
  cases makes with
  | @intro globals own flags before after rest =>
    have texts (t : Typed) (last : LastTyped line.globals .configFile t) :
        t.value = .ok (.text t.text) := by
      have fits := fits_globalSwitches _ (reads.own.1 t last.mem.1)
      rw [Switch.fits, last.mem.2] at fits
      rw [Typed.value, of_decide_eq_true fits]
    constructor
    · intro named
      unfold Globals.ofValues at named
      split at named
      next typed found =>
        cases named
        obtain ⟨t, last, made⟩ := before.lookup_eq_some_iff.1 found
        rw [texts t last] at made
        cases made
        exact ⟨t, last, rfl⟩
      next => cases named
    · rintro ⟨t, last, rfl⟩
      have found := before.lookup_eq_some_iff.2 ⟨t, last, texts t last⟩
      simp only [Globals.ofValues, found]

theorem gives_of_typed (makes : line.Makes i) {t : Typed} (typed : t ∈ line.globals ++ line.own)
    {k : Setting} (slot : t.switch.slot = .setting k) : ∃ g, line.Gives k g := by
  cases makes with
  | @intro globals own flags before after rest =>
    have given : (own.lookup (.setting k)).or (globals.lookup (.setting k)) ≠ none := by
      rw [Ne, Option.or_eq_none_iff, after.lookup_eq_none_iff, before.lookup_eq_none_iff]
      rintro ⟨unowned, unset⟩
      rcases List.mem_append.1 typed with earlier | later
      · exact unset t earlier slot
      · exact unowned t later slot
    obtain ⟨g, found⟩ := Option.ne_none_iff_exists'.1 given
    obtain ⟨last, position, made⟩ := (before.lookup_or_eq_some_iff after).1 found
    exact ⟨g, .option position made⟩

theorem give_eq_of_gives (reads : Reads args line) {k : Setting} {g : Given}
    (gives : line.Gives k g) {w : k.Value} (checked : k.check g = .ok w) : k.shape.give w = g := by
  cases gives with
  | @option k t g last made =>
    have fits := reads.fits t last.mem.1
    rw [Switch.fits, last.mem.2] at fits
    simp only [Bool.and_eq_true, decide_eq_true_eq, bne_iff_ne] at fits
    obtain ⟨⟨shape, plain⟩, _⟩ := fits
    obtain ⟨v, rfl⟩ : ∃ v, g = k.shape.give v := shape ▸ Typed.value_shape made
    rw [Setting.check, Shape.coerce_give] at checked
    exact congrArg _ (Setting.accept_eq plain checked)
  | debug =>
    cases checked
    rfl
  | word =>
    cases checked
    rfl

end Line

end CommandLine

end BackupConsole
