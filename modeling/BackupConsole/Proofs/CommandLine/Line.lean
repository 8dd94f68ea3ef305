import BackupConsole.CommandLine.Invocation
import BackupConsole.Proofs.CommandLine.Spelling
import BackupConsole.Proofs.Except
import BackupConsole.Proofs.Keys

set_option autoImplicit false

namespace BackupConsole

namespace CommandLine

def LastTyped (typed : List Typed) (slot : Slot) (t : Typed) : Prop :=
  ∃ before after, typed = before ++ t :: after ∧ t.switch.slot = slot ∧
    ∀ later ∈ after, later.switch.slot ≠ slot

theorem LastTyped.mem {typed : List Typed} {slot : Slot} {t : Typed}
    (last : LastTyped typed slot t) : t ∈ typed ∧ t.switch.slot = slot := by
  obtain ⟨before, after, rfl, same, _⟩ := last
  exact ⟨List.mem_append_right _ List.mem_cons_self, same⟩

theorem lastTyped_iff {typed : List Typed} {slot : Slot} {t : Typed} :
    Mapping.lastValue? (· == ·) (typed.map fun t => (t.switch.slot, t)) slot = some t ↔
      LastTyped typed slot t := by
  rw [Mapping.lastValue?_map_eq_some_iff]
  constructor
  · rintro ⟨before, u, after, split, own, rfl, others⟩
    exact ⟨before, after, split, own, others⟩
  · rintro ⟨before, after, split, own, others⟩
    exact ⟨before, t, after, split, own, rfl, others⟩

theorem lastTyped_append_iff {before after : List Typed} {slot : Slot} {t : Typed} :
    LastTyped (before ++ after) slot t ↔ LastTyped after slot t ∨
      (∀ later ∈ after, later.switch.slot ≠ slot) ∧ LastTyped before slot t := by
  simp only [← lastTyped_iff, List.map_append, Mapping.lastValue?_append,
    Option.or_eq_some_iff, Mapping.lastValue?_eq_none_iff, List.forall_mem_map]

def Reading (entry : Slot × Typed) (value : Slot × Given) : Prop :=
  value.1 = entry.1 ∧ entry.2.value = .ok value.2

theorem keys_of_readings {latest : List (Slot × Typed)} {values : List (Slot × Given)}
    (each : List.Forall₂ Reading latest values) : values.map (·.1) = latest.map (·.1) := by
  induction each with
  | nil => rfl
  | cons first _ ih => rw [List.map_cons, List.map_cons, first.1, ih]

theorem lookup_of_readings {latest : List (Slot × Typed)} {values : List (Slot × Given)}
    (each : List.Forall₂ Reading latest values) (slot : Slot) :
    values.lookup slot = (latest.lookup slot).bind fun t => t.value.toOption := by
  induction each with
  | nil => rfl
  | @cons entry value _ _ first _ ih =>
    obtain ⟨own, t⟩ := entry
    obtain ⟨slot', v⟩ := value
    obtain ⟨same, made⟩ := first
    simp only at same made
    rw [Mapping.lookup_cons_eq_ite, Mapping.lookup_cons_eq_ite, ih, same]
    by_cases here : slot = own
    · simp [here, made, Except.toOption]
    · simp [here]

def Values (typed : List Typed) (values : List (Slot × Given)) : Prop :=
  ({ typed } : Scan).values = .ok values

namespace Values

variable {typed : List Typed} {values : List (Slot × Given)} (read : Values typed values)
include read

theorem readings : List.Forall₂ Reading ({ typed } : Scan).latest values := by
  refine (mapM_eq_ok_iff.1 read).imp fun ⟨slot, t⟩ ⟨slot', g⟩ made => ?_
  cases value : t.value with
  | error e =>
    simp only [value] at made
    cases made
  | ok v =>
    simp only [value] at made
    cases made
    exact ⟨rfl, value⟩

theorem keys : values.map (·.1) = (typed.map fun t => t.switch.slot).eraseDups := by
  rw [keys_of_readings read.readings, Scan.latest, Mapping.keys_ofPairs, List.map_map]
  rfl

theorem lookup_eq_some_iff {slot : Slot} {g : Given} :
    values.lookup slot = some g ↔ ∃ t, LastTyped typed slot t ∧ t.value = .ok g := by
  rw [lookup_of_readings read.readings, Scan.latest, Mapping.lookup_ofPairs,
    Option.bind_eq_some_iff]
  simp only [lastTyped_iff]
  refine exists_congr fun t => and_congr_right fun _ => ?_
  cases t.value <;> simp [Except.toOption]

theorem distinct : (values.map (·.1)).Nodup := by
  rw [read.keys]
  exact nodup_eraseDups _

theorem mem_keys_iff {slot : Slot} :
    slot ∈ values.map (·.1) ↔ ∃ t ∈ typed, t.switch.slot = slot := by
  rw [read.keys, List.mem_eraseDups, List.mem_map]

theorem not_mem_keys_iff {slot : Slot} :
    slot ∉ values.map (·.1) ↔ ∀ t ∈ typed, t.switch.slot ≠ slot := by
  rw [read.mem_keys_iff]
  simp

theorem lookup_eq_none_iff {slot : Slot} :
    values.lookup slot = none ↔ ∀ t ∈ typed, t.switch.slot ≠ slot := by
  rw [Mapping.lookup_eq_none_iff, read.not_mem_keys_iff]

theorem lookup_or_eq_some_iff {later : List Typed} {values' : List (Slot × Given)}
    (after : Values later values') {slot : Slot} {g : Given} :
    (values'.lookup slot).or (values.lookup slot) = some g ↔
      ∃ t, LastTyped (typed ++ later) slot t ∧ t.value = .ok g := by
  rw [Option.or_eq_some_iff, after.lookup_eq_some_iff, after.lookup_eq_none_iff,
    read.lookup_eq_some_iff]
  simp only [lastTyped_append_iff]
  constructor
  · rintro (⟨t, last, made⟩ | ⟨absent, t, last, made⟩)
    · exact ⟨t, .inl last, made⟩
    · exact ⟨t, .inr ⟨absent, last⟩, made⟩
  · rintro ⟨t, last | ⟨absent, last⟩, made⟩
    · exact .inl ⟨t, last, made⟩
    · exact .inr ⟨absent, t, last, made⟩

end Values

structure Line where
  globals : List Typed
  command : Command
  own : List Typed
  words : List String

namespace Line

inductive Reads : List String → Line → Prop
  | direct {args rest words : List String} {name : String} {command : Command}
      {globals own : List Typed} (before : Spells globalSwitches false args globals (name :: rest))
      (named : entries.lookup name = some (.command command))
      (after : Spells (switchesOf command) true rest own words) :
      Reads args ⟨globals, command, own, words⟩
  | grouped {args rest later words : List String} {group name : String}
      {members : List (String × Command)} {command : Command} {globals own : List Typed}
      (before : Spells globalSwitches false args globals (group :: rest))
      (grouping : entries.lookup group = some (.group members))
      (inside : Spells [.help] false rest [] (name :: later))
      (named : members.lookup name = some command)
      (after : Spells (switchesOf command) true later own words) :
      Reads args ⟨globals, command, own, words⟩

theorem Reads.unique {args : List String} {line other : Line} (reads : Reads args line)
    (also : Reads args other) : line = other := by
  cases reads with
  | direct before named after =>
    have first := orderly_globalSwitches.scan_of_spells before
    cases also with
    | direct before' named' after' =>
      cases first.symm.trans (orderly_globalSwitches.scan_of_spells before')
      cases named.symm.trans named'
      have second := (orderly_switchesOf _).scan_of_spells after
      cases second.symm.trans ((orderly_switchesOf _).scan_of_spells after')
      rfl
    | grouped before' grouping' inside' named' after' =>
      cases first.symm.trans (orderly_globalSwitches.scan_of_spells before')
      cases named.symm.trans grouping'
  | grouped before grouping inside named after =>
    have first := orderly_globalSwitches.scan_of_spells before
    cases also with
    | direct before' named' after' =>
      cases first.symm.trans (orderly_globalSwitches.scan_of_spells before')
      cases grouping.symm.trans named'
    | grouped before' grouping' inside' named' after' =>
      cases first.symm.trans (orderly_globalSwitches.scan_of_spells before')
      cases grouping.symm.trans grouping'
      have second := orderly_help.scan_of_spells inside
      cases second.symm.trans (orderly_help.scan_of_spells inside')
      cases named.symm.trans named'
      have third := (orderly_switchesOf _).scan_of_spells after
      cases third.symm.trans ((orderly_switchesOf _).scan_of_spells after')
      rfl

inductive Makes (line : Line) : Invocation → Prop
  | intro {globals own : List (Slot × Given)} {flags : Flags} (before : Values line.globals globals)
      (after : Values line.own own) (rest : readWords line.command line.words = .ok flags) :
      Makes line ⟨.ofValues globals, line.command, flagsOf own ++ flags⟩

end Line

theorem read_eq_ok {switches : List Switch} (orderly : Orderly switches) {mixed : Bool}
    {args words : List String} {values : List (Slot × Given)}
    (accepted : read switches mixed args = .ok (values, words)) :
    ∃ typed, Spells switches mixed args typed words ∧ Values typed values ∧
      ∀ t ∈ typed, t.switch.slot ≠ .help := by
  unfold read at accepted
  cases scanned : scan switches mixed args with
  | mk typed left problem =>
    simp only [scanned] at accepted
    cases problem with
    | some e => cases accepted
    | none =>
      by_cases asked : (typed.any fun t => t.switch.slot == .help) = true
      · simp only [asked, if_true] at accepted
        cases accepted
      · simp only [asked] at accepted
        cases made : ({ typed, words := left } : Scan).values with
        | error e =>
          simp only [made] at accepted
          cases accepted
        | ok read =>
          simp only [made] at accepted
          cases accepted
          refine ⟨typed, orderly.spells_of_scan scanned, made, ?_⟩
          simpa using asked

theorem choose_eq_ok {α : Type} {switches : List Switch} (orderly : Orderly switches)
    {table : List (String × α)} {args rest : List String} {values : List (Slot × Given)} {entry : α}
    (accepted : choose switches table args = .ok (values, entry, rest)) :
    ∃ typed word, Spells switches false args typed (word :: rest) ∧ Values typed values ∧
      (∀ t ∈ typed, t.switch.slot ≠ .help) ∧ table.lookup word = some entry := by
  unfold choose at accepted
  split at accepted
  next => cases accepted
  next =>
    obtain ⟨⟨read, words⟩, made, accepted⟩ := bind_eq_ok accepted
    obtain ⟨typed, spells, values, unhelped⟩ := read_eq_ok orderly made
    match words with
    | [] => cases accepted
    | word :: after =>
      cases named : table.lookup word with
      | none =>
        simp only [named] at accepted
        obtain ⟨_, _, failed⟩ := bind_eq_ok accepted
        cases failed
      | some found =>
        simp only [named] at accepted
        cases accepted
        exact ⟨typed, word, spells, values, unhelped, named⟩

theorem readCommand_eq_ok {globals : Globals} {command : Command} {args : List String}
    {i : Invocation} (accepted : readCommand globals command args = .ok i) :
    ∃ own words values flags, Spells (switchesOf command) true args own words ∧
      Values own values ∧ readWords command words = .ok flags ∧
      i = ⟨globals, command, flagsOf values ++ flags⟩ := by
  obtain ⟨⟨values, words⟩, made, accepted⟩ := bind_eq_ok accepted
  obtain ⟨own, spells, read, _⟩ := read_eq_ok (orderly_switchesOf command) made
  obtain ⟨flags, rest, done⟩ := bind_eq_ok accepted
  cases done
  exact ⟨own, words, values, flags, spells, read, rest, rfl⟩

theorem Line.reads_of_parse {args : List String} {i : Invocation} (parsed : parse args = .ok i) :
    ∃ line, Line.Reads args line ∧ line.Makes i := by
  obtain ⟨⟨values, entry, rest⟩, chosen, accepted⟩ := bind_eq_ok parsed
  obtain ⟨globals, name, before, read, _, named⟩ := choose_eq_ok orderly_globalSwitches chosen
  cases entry with
  | command c =>
    obtain ⟨own, words, given, flags, after, valued, rest, rfl⟩ := readCommand_eq_ok accepted
    exact ⟨_, .direct before named after, .intro read valued rest⟩
  | group members =>
    obtain ⟨⟨_, c, later⟩, picked, accepted⟩ := bind_eq_ok accepted
    obtain ⟨inner, member, inside, _, unhelped, known⟩ := choose_eq_ok orderly_help picked
    obtain ⟨own, words, given, flags, after, valued, rest, rfl⟩ := readCommand_eq_ok accepted
    -- Help is the only switch of a group, and it was not asked for.
    have none : inner = [] := by
      cases inner with
      | nil => rfl
      | cons t others =>
        have own := List.mem_singleton.1 (inside.own t List.mem_cons_self)
        exact absurd (congrArg Switch.slot own) (unhelped t List.mem_cons_self)
    exact ⟨_, .grouped before named (none ▸ inside) known after, .intro read valued rest⟩

end CommandLine

end BackupConsole
