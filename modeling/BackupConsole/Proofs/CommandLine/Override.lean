import BackupConsole.Proofs.CommandLine.Options
import Mathlib.Data.List.Basic

set_option autoImplicit false

namespace BackupConsole

namespace Inputs

variable {i j : Inputs} {entries : List (Given × Given)} {s : Settings}

theorem Uses.unique {others : List (Given × Given)} (uses : i.Uses entries)
    (also : i.Uses others) : entries = others := by
  cases uses with
  | named named expanded present held =>
    cases also with
    | named named' expanded' present' held' =>
      cases named.symm.trans named'
      cases expanded.symm.trans expanded'
      exact Option.some.inj (held.symm.trans held')
    | fallback unnamed => cases named.symm.trans unnamed
    | nothing unnamed => cases named.symm.trans unnamed
  | fallback unnamed expanded present held =>
    cases also with
    | named named => cases named.symm.trans unnamed
    | fallback _ expanded' present' held' =>
      cases expanded.symm.trans expanded'
      exact Option.some.inj (held.symm.trans held')
    | nothing _ expanded' absent =>
      cases expanded.symm.trans expanded'
      cases absent.symm.trans present
  | nothing unnamed expanded absent =>
    cases also with
    | named named => cases named.symm.trans unnamed
    | fallback _ expanded' present held' =>
      cases expanded.symm.trans expanded'
      cases absent.symm.trans present
    | nothing => rfl

theorem Uses.of_same (uses : i.Uses entries) (world : i.world = j.world)
    (typed : i.typed = j.typed) (fallback : i.fallback = j.fallback) : j.Uses entries := by
  obtain ⟨world', typed', flags, fallback'⟩ := i
  obtain ⟨world'', typed'', flags', fallback''⟩ := j
  cases world
  cases typed
  cases fallback
  cases uses with
  | named named expanded present held => exact .named named expanded present held
  | fallback unnamed expanded present held => exact .fallback unnamed expanded present held
  | nothing unnamed expanded absent => exact .nothing unnamed expanded absent

theorem check_value (resolved : i.resolve = .ok s) :
    ∃ entries, i.Uses entries ∧ ∀ k : Setting, k.check (i.value entries k) = .ok (s.get k) := by
  obtain ⟨overrides, entries, file, accepted⟩ := reachesValidation_iff.1 (.inl ⟨s, resolved⟩)
  refine ⟨entries, accepted.uses, fun k => ?_⟩
  rw [resolve_of_accepted accepted, validated] at resolved
  cases made : Settings.ofLayer (mergedLayer file overrides i.flags) with
  | error faults =>
    rw [made] at resolved
    cases resolved
  | ok settings =>
    rw [made] at resolved
    cases resolved
    have checked := Settings.checked_of_ofLayer made k
    rw [Layer.checked, get?_mergedLayer accepted] at checked
    exact checked

theorem value_of_flag {k : Setting} {g : Given} (given : i.flags.value? k = some g) :
    i.value entries k = g := by
  simp [value, sources, given]

theorem value_eq_of_same {k : Setting} (world : i.world = j.world)
    (flags : i.flags.value? k = j.flags.value? k) : i.value entries k = j.value entries k := by
  have level : i.debugLevel? k = j.debugLevel? k := by rw [debugLevel?, debugLevel?, world]
  simp only [value, sources, List.findSome?_cons, flags, level, world]

end Inputs

namespace CommandLine

def Invocation.lower (i : Invocation) (world : World) : Inputs :=
  { world, typed := i.globals.configFile }

def Invocation.inputs (i : Invocation) (world : World) : Inputs :=
  { world, typed := i.globals.configFile, flags := i.globals.flags ++ i.flags }

theorem Invocation.resolve_inputs (i : Invocation) (world : World) :
    (i.inputs world).resolve = i.settings world := rfl

def Line.Omits (line : Line) (k : Setting) : Prop := ∀ g, ¬ line.Gives k g

structure Overrides (world : World) (i : Invocation) (line : Line) (s : Settings) : Prop where
  command : line.command = i.command
  file : ∀ name, i.globals.configFile = some name ↔ line.NamesFile name
  given : ∀ t ∈ line.globals ++ line.own, ∀ k, t.switch.slot = .setting k → ∃ g, line.Gives k g
  typed : ∀ k g, line.Gives k g → s.given k = g
  untyped : ∃ entries, (i.lower world).Uses entries ∧
    (∀ name, line.NamesFile name → name ≠ "" → ∃ path,
      (Path.ofText name).expandHome world.files.homes = some path ∧
      ConfigFile.entries? world.files path = some entries) ∧
    ∀ k, line.Omits k → k.check ((i.lower world).value entries k) = .ok (s.get k)
  alone : ∀ t, (i.lower world).resolve = .ok t → ∀ k, line.Omits k → s.get k = t.get k
  -- Another line that gives the same for a setting, and names the same file, comes to the same.
  separate : ∀ args j t other, parse args = .ok j → j.settings world = .ok t →
    Line.Reads args other → (∀ name, other.NamesFile name ↔ line.NamesFile name) →
    ∀ k, (∀ g, other.Gives k g ↔ line.Gives k g) → t.get k = s.get k

variable {world : World} {args : List String} {i j : Invocation} {s t : Settings}
  {line other : Line}

theorem value_of_gives (reads : Line.Reads args line) (makes : line.Makes i) {k : Setting}
    {g : Given} (gives : line.Gives k g) (entries : List (Given × Given)) :
    (i.inputs world).value entries k = g :=
  Inputs.value_of_flag ((Line.value?_iff_gives reads makes).2 gives)

theorem value_of_omits (reads : Line.Reads args line) (makes : line.Makes i) {k : Setting}
    (omits : line.Omits k) (entries : List (Given × Given)) :
    (i.inputs world).value entries k = (i.lower world).value entries k := by
  refine Inputs.value_eq_of_same rfl ?_
  have unflagged : (i.inputs world).flags.value? k = none := by
    refine Option.eq_none_iff_forall_ne_some.2 fun g given => ?_
    exact omits g ((Line.value?_iff_gives reads makes).1 given)
  exact unflagged

theorem held_of_named {entries : List (Given × Given)} (uses : (i.lower world).Uses entries)
    {name : String} (named : i.globals.configFile = some name) (nonempty : name ≠ "") :
    ∃ path, (Path.ofText name).expandHome world.files.homes = some path ∧
      ConfigFile.entries? world.files path = some entries := by
  have chosen : (i.lower world).named = some name := by
    simp [Inputs.named, Invocation.lower, named, nonempty]
  cases uses with
  | @named text path _ named expanded present held =>
    cases chosen.symm.trans named
    exact ⟨path, expanded, held⟩
  | fallback unnamed => cases chosen.symm.trans unnamed
  | nothing unnamed => cases chosen.symm.trans unnamed

theorem get_eq_of_agreeing (reads : Line.Reads args line) (makes : line.Makes i)
    (resolved : i.settings world = .ok s) {args' : List String} (parsed : parse args' = .ok j)
    (resolved' : j.settings world = .ok t) (also : Line.Reads args' other)
    (files : ∀ name, other.NamesFile name ↔ line.NamesFile name) {k : Setting}
    (agree : ∀ g, other.Gives k g ↔ line.Gives k g) : t.get k = s.get k := by
  obtain ⟨again, reads', makes'⟩ := Line.reads_of_parse parsed
  cases also.unique reads'
  have file : j.globals.configFile = i.globals.configFile := by
    refine Option.ext fun name => ?_
    rw [Line.configFile_eq_some_iff also makes', Line.configFile_eq_some_iff reads makes]
    exact files name
  have flags : (j.inputs world).flags.value? k = (i.inputs world).flags.value? k := by
    refine Option.ext fun g => ?_
    exact (Line.value?_iff_gives also makes').trans
      ((agree g).trans (Line.value?_iff_gives reads makes).symm)
  obtain ⟨entries, uses, checked⟩ := Inputs.check_value ((i.resolve_inputs world).trans resolved)
  obtain ⟨entries', uses', checked'⟩ :=
    Inputs.check_value ((j.resolve_inputs world).trans resolved')
  cases uses.unique (uses'.of_same rfl file rfl)
  have value : (j.inputs world).value entries k = (i.inputs world).value entries k :=
    Inputs.value_eq_of_same rfl flags
  have both := checked' k
  rw [value, checked k] at both
  exact (Except.ok.inj both).symm

/-- The settings of a command have the values typed last; where none was typed, those that the
sources below resolve to. -/
theorem typed_options_override (parsed : parse args = .ok i)
    (resolved : i.settings world = .ok s) :
    ∃ line, Line.Reads args line ∧ (∀ other, Line.Reads args other → other = line) ∧
      Overrides world i line s := by
  obtain ⟨line, reads, makes⟩ := Line.reads_of_parse parsed
  refine ⟨line, reads, fun other also => also.unique reads, ?_⟩
  obtain ⟨entries, uses, checked⟩ := Inputs.check_value ((i.resolve_inputs world).trans resolved)
  have lower : (i.lower world).Uses entries := uses.of_same rfl rfl rfl
  have below (k : Setting) (omits : line.Omits k) :
      k.check ((i.lower world).value entries k) = .ok (s.get k) := by
    rw [← value_of_omits reads makes omits]
    exact checked k
  refine {
    command := by cases makes; rfl
    file := fun name => Line.configFile_eq_some_iff reads makes
    given := fun t typed k slot => Line.gives_of_typed makes typed slot
    typed := ?_
    untyped := ⟨entries, lower, ?_, below⟩
    alone := ?_
    separate := ?_ }
  · intro k g gives
    have check := checked k
    rw [value_of_gives reads makes gives] at check
    exact Line.give_eq_of_gives reads gives check
  · intro name names nonempty
    exact held_of_named lower ((Line.configFile_eq_some_iff reads makes).2 names) nonempty
  · intro t resolves k omits
    obtain ⟨others, uses', checked'⟩ := Inputs.check_value resolves
    cases lower.unique uses'
    have both := below k omits
    rw [checked' k] at both
    exact (Except.ok.inj both).symm
  · intro args' j t other parsed' resolved' also files k agree
    exact get_eq_of_agreeing reads makes resolved parsed' resolved' also files agree

theorem typed_options_override_no_tls :
    ∃ world i line s,
      parse ["--tls", "-d", "--no-tls", "list", "nodes", "--verbose"] = .ok i ∧
      world.environment = [("BACKUPCTL_TLS", "true"), ("BACKUPCTL_STORAGE", "s3")] ∧
      i.settings world = .ok s ∧ s.tls = false ∧ s.logLevel = "DEBUG" ∧ s.storageName = "s3" ∧
      Overrides world i line s := by
  have parsed : parse ["--tls", "-d", "--no-tls", "list", "nodes", "--verbose"] = .ok {
      globals := { flags := [("tls", .bool false), ("log_level", .text "DEBUG")] }
      command := .listNodes
      flags := [("verbose", .bool true)] } := by
    have before : read globalSwitches false
        ["--tls", "-d", "--no-tls", "list", "nodes", "--verbose"] =
          .ok ([(.setting .tls, .bool false), (.debug, .bool true)],
            ["list", "nodes", "--verbose"]) := by
      simp only [read, scan]
      rfl
    have inside : read [.help] false ["nodes", "--verbose"] = .ok ([], ["nodes", "--verbose"]) := by
      simp only [read, scan]
      rfl
    have after : read (switchesOf .listNodes) true ["--verbose"] =
        .ok ([(.setting .verbose, .bool true)], []) := by
      simp only [read, scan]
      rfl
    rw [parse, choose, before]
    change (choose _ _ _ >>= _) = _
    rw [choose, inside]
    change readCommand _ _ _ = _
    rw [readCommand, after]
    rfl
  have resolved : Invocation.settings
      ⟨.ofHome "/home", [("BACKUPCTL_TLS", "true"), ("BACKUPCTL_STORAGE", "s3")]⟩ {
        globals := { flags := [("tls", .bool false), ("log_level", .text "DEBUG")] }
        command := .listNodes
        flags := [("verbose", .bool true)] } = .ok { Settings.defaults with
          logLevel := "DEBUG", storageName := "s3", verbose := true } := rfl
  obtain ⟨line, _, _, overrides⟩ := typed_options_override parsed resolved
  exact ⟨_, _, line, _, parsed, rfl, resolved, rfl, rfl, rfl, overrides⟩

end CommandLine

end BackupConsole
