import BackupConsole.Proofs.CommandLine.Override
import BackupConsole.Proofs.Settings.Strictness

set_option autoImplicit false

namespace BackupConsole

namespace Setting

variable {k : Setting}

theorem upperLevel_of_mem {level : String} (listed : level ∈ levels) :
    upperLevel level = level := by
  revert level
  decide

theorem accept_accepted {v w : k.Value} (accepted : k.accept v = .ok w) :
    k.accept w = .ok w := by
  cases k with
  | logLevel =>
    simp only [accept] at accepted ⊢
    split at accepted
    next listed =>
      cases accepted
      rw [upperLevel_of_mem (List.contains_iff_mem.1 listed), if_pos listed]
    next => cases accepted
  | serverAddress | serverCompressor | connectTimeout | logFormat =>
    simp only [accept] at accepted
    split at accepted
    all_goals cases accepted
    all_goals simp_all [accept]
  | _ => rfl

theorem check_give (v : k.Value) : k.check (k.shape.give v) = k.accept v := by
  rw [check, Shape.coerce_give]
  rfl

theorem check_of_coerced {g : Given} {v : k.Value} (coerced : k.shape.coerce g = .ok v) :
    k.check g = k.check (k.shape.give v) := by
  rw [check_give, check, coerced]
  rfl

theorem check_checked {g : Given} {v : k.Value} (checked : k.check g = .ok v) :
    k.check (k.shape.give v) = .ok v := by
  obtain ⟨w, _, accepted⟩ := bind_eq_ok checked
  rw [check_give, accept_accepted accepted]

end Setting

namespace Settings

def replaced (s : Settings) (k : Setting) (x : k.Value) : Settings :=
  ofValues fun j => if same : k = j then same ▸ x else s.get j

theorem get_replaced_own (s : Settings) (k : Setting) (x : k.Value) :
    (s.replaced k x).get k = x := by
  rw [replaced, get_ofValues, dif_pos rfl]

theorem get_replaced_other {s : Settings} {k j : Setting} {x : k.Value} (other : j ≠ k) :
    (s.replaced k x).get j = s.get j := by
  rw [replaced, get_ofValues, dif_neg other.symm]

theorem check_defaults (k : Setting) : k.check (defaults.given k) = .ok (defaults.get k) := by
  have checked := Layer.checked_defaultLayer k
  rwa [Layer.checked, Layer.get?_defaultLayer] at checked

def flags (s : Settings) : Flags := Setting.all.map fun k => (k.name, s.given k)

theorem value?_flags (s : Settings) (k : Setting) : s.flags.value? k = some (s.given k) := by
  cases k <;> rfl

end Settings

namespace Environment

variable {vars : Variables}

structure Gives (vars : Variables) (text? : Setting → Option String) : Prop where
  settings : ∀ k ∈ Environment.settings, value? vars (suffix k) = text? k
  debug : value? vars "debug" = none

theorem load_of_readable (readable : ∀ k ∈ settings, ∃ entry, readSetting vars k = .ok entry)
    (quiet : value? vars "debug" = none) : ∃ overrides, load vars = .ok overrides := by
  have asked : readDebug vars = .ok none := by rw [readDebug, quiet]
  simp only [load, asked]
  exact ⟨_, if_pos (List.isEmpty_iff.2 (Layer.faultless_iff.2 readable))⟩

theorem readable_of_load {overrides : Overrides} (loaded : load vars = .ok overrides) :
    ∀ k ∈ settings, ∃ entry, readSetting vars k = .ok entry := by
  unfold load at loaded
  cases asked : readDebug vars with
  | error fault => simp [asked] at loaded
  | ok debug =>
    simp only [asked, List.isEmpty_iff] at loaded
    split at loaded
    next faultless => exact Layer.faultless_iff.1 faultless
    next => cases loaded

end Environment

namespace ConfigFile

variable {files : Files} {path : Path} {entries : List (Given × Given)} {faults : List Fault}

theorem ne_nil_of_refused (refused : layerOf entries = .error faults) : entries ≠ [] := by
  rintro rfl
  cases refused

theorem load_of_refused (held : entries? files path = some entries)
    (refused : layerOf entries = .error faults) :
    load files path = .error (.refused (.invalidConfig path.toText faults)) := by
  unfold entries? at held
  split at held
  next => cases held
  next bytes found =>
    rw [load_of_read found]
    split at held
    next => exact absurd (Option.some.inj held).symm (ne_nil_of_refused refused)
    next others made =>
      cases held
      rw [made, Except.bind, readDocument, refused]
      rfl
    next => cases held

end ConfigFile

namespace Inputs

variable {i : Inputs} {overrides : Environment.Overrides} {entries : List (Given × Given)}
  {file : Layer} {faults : List Fault} {s : Settings}

theorem Uses.read (uses : i.Uses entries) (filled : entries ≠ []) :
    ∃ path, ConfigFile.entries? i.world.files path = some entries ∧
      ConfigFile.find i.world.files i.named i.fallback = .ok (some path) := by
  cases uses with
  | named named expanded present held =>
    refine ⟨_, held, ConfigFile.find_eq_some_iff.2 ⟨?_, present⟩⟩
    rw [named_filter, named]
    exact expanded
  | fallback unnamed expanded present held =>
    refine ⟨_, held, ConfigFile.find_eq_some_iff.2 ⟨?_, present⟩⟩
    rw [named_filter, unnamed]
    exact expanded
  | nothing => exact absurd rfl filled

theorem resolve_of_unlayered (loaded : Environment.load i.world.environment = .ok overrides)
    (uses : i.Uses entries) (refused : ConfigFile.layerOf entries = .error faults) :
    ∃ path : Path, i.resolve = .error (.refused (.invalidConfig path.toText faults)) := by
  obtain ⟨path, held, found⟩ := uses.read (ConfigFile.ne_nil_of_refused refused)
  refine ⟨path, ?_⟩
  rw [resolve_of_loaded loaded, found, Except.bind, ConfigFile.readFound,
    ConfigFile.load_of_refused held refused]
  rfl

theorem resolve_of_checked (accepted : i.Accepted overrides entries file)
    (checked : ∀ k : Setting, k.check (i.value entries k) = .ok (s.get k)) : i.resolve = .ok s := by
  have made : Settings.ofLayer (mergedLayer file overrides i.flags) = .ok s := by
    refine Settings.ofLayer_of_checked fun k => ?_
    rw [Layer.checked, get?_mergedLayer accepted]
    exact checked k
  rw [resolve_of_accepted accepted, validated, made]
  rfl

theorem resolve_of_unchecked (accepted : i.Accepted overrides entries file) {k : Setting}
    {flaw : Flaw} (flawed : k.check (i.value entries k) = .error flaw) :
    ∃ faults, i.resolve = .error (.refused (.invalidSettings faults)) := by
  obtain ⟨s, resolved⟩ | refused := reachesValidation_iff.2 ⟨_, _, _, accepted⟩
  · obtain ⟨others, uses, checked⟩ := check_value resolved
    rw [uses.unique accepted.uses] at checked
    cases flawed.symm.trans (checked k)
  · exact refused

end Inputs

inductive Source
  | file
  | environment
  | flag
  deriving DecidableEq, Repr

namespace Source

def entries : Source → Setting → String → List (Given × Given)
  | file, k, v => [(.text k.name, .text v)]
  | _, _, _ => []

def text? : Source → Setting → String → Setting → Option String
  | environment, k, v, j => if j = k then some v else none
  | _, _, _, _ => none

def flags : Source → Setting → String → Flags
  | flag, k, v => [(k.name, .text v)]
  | _, _, _ => []

end Source

def Setting.given? (k : Setting) (v : String) : Option Given :=
  (k.shape.coerce (.text v)).toOption.map k.shape.give

namespace ConfigFile

variable {k j : Setting} {v : String}

theorem name_mem_spellings (k : Setting) : k.name ∈ spellings k := by
  cases k <;> simp [spellings, Setting.name]

theorem settingOf?_name (listed : k ∈ settings) : settingOf? (.text k.name) = some k :=
  settingOf?_eq_some_iff.2 ⟨listed, k.name, name_mem_spellings k, rfl⟩

theorem speltOnce_single (key g : Given) : SpeltOnce [(key, g)] := by
  rintro ⟨⟨_, full⟩, ⟨_, short⟩⟩
  cases List.mem_singleton.1 full
  have same := (Prod.mk.inj (List.mem_singleton.1 short)).1
  exact absurd (Given.text.inj same) (by decide)

theorem layerOf_single (listed : k ∈ settings) :
    (∃ layer, layerOf [(.text k.name, .text v)] = .ok layer) ↔
      ∃ x, k.shape.coerce (.text v) = .ok x := by
  have known := settingOf?_name listed
  rw [layerOf_ok_iff (List.pairwise_singleton _ _)]
  constructor
  · intro admitted
    exact admitted.readable _ List.mem_cons_self k known (by simp)
  · rintro ⟨x, coerced⟩
    refine ⟨List.forall_mem_singleton.2 (by simp [known]), speltOnce_single _ _, ?_⟩
    refine List.forall_mem_singleton.2 fun j spells _ => ?_
    cases known.symm.trans spells
    exact ⟨x, coerced⟩

theorem given?_single (listed : k ∈ settings) :
    given? [(.text k.name, .text v)] j = if j = k then k.given? v else none := by
  refine Option.ext fun w => ?_
  rw [given?_iff_entryOf? (List.pairwise_singleton _ _) (speltOnce_single _ _)]
  simp only [List.mem_singleton, exists_eq_left, entryOf?_eq_some_iff, settingOf?_name listed]
  by_cases same : j = k
  · subst same
    simp [Setting.given?, toOption_eq_some_iff]
  · simp [same, Ne.symm same]

theorem given?_nil (j : Setting) : given? [] j = none := by
  refine Option.eq_none_iff_forall_ne_some.2 fun w gives => ?_
  obtain ⟨_, _, _, _, held, _⟩ := given?_eq_some_iff.1 gives
  cases held

end ConfigFile

namespace Environment

variable {vars : Variables} {k j : Setting} {v : String}

theorem mem_settings_of_file (listed : k ∈ ConfigFile.settings) : k ∈ settings := by
  revert k
  decide

end Environment

namespace Inputs

structure OnlyGives (source : Source) (k : Setting) (v : String) (i : Inputs) : Prop where
  file : i.Uses (source.entries k v)
  environment : Environment.Gives i.world.environment (source.text? k v)
  flags : i.flags = source.flags k v

variable {i : Inputs} {source : Source} {k j : Setting} {v : String} {s : Settings}

theorem OnlyGives.flag_value? (gives : i.OnlyGives source k v) :
    i.flags.value? j = if source = .flag ∧ j = k then some (.text v) else none := by
  rw [gives.flags]
  cases source with
  | file | environment => rfl
  | flag =>
    by_cases same : j = k
    · subst same
      simp [Source.flags, Flags.value?, Mapping.lastValue?]
    · have differ : k.name ≠ j.name := by
        intro named
        have found := Setting.ofName?_eq_some_iff.2 named
        rw [Setting.ofName?_eq_some_iff.2 rfl] at found
        exact same (Option.some.inj found).symm
      simp [Source.flags, Flags.value?, Mapping.lastValue?, differ, same]

theorem OnlyGives.environment_given? (gives : i.OnlyGives source k v)
    (listed : k ∈ ConfigFile.settings) : Environment.given? i.world.environment j =
      if source = .environment ∧ j = k then k.given? v else none := by
  unfold Environment.given?
  split
  next known =>
    rw [gives.environment.settings j known]
    cases source with
    | file | flag => rfl
    | environment =>
      by_cases same : j = k
      · subst same
        simp [Source.text?, Setting.given?]
      · simp [Source.text?, same]
  next unknown =>
    have other : j ≠ k := fun same => unknown (same ▸ Environment.mem_settings_of_file listed)
    simp [other]

theorem OnlyGives.file_given? (listed : k ∈ ConfigFile.settings) :
    ConfigFile.given? (source.entries k v) j =
      if source = .file ∧ j = k then k.given? v else none := by
  cases source with
  | file => simpa [Source.entries] using ConfigFile.given?_single listed
  | environment | flag => simpa [Source.entries] using ConfigFile.given?_nil j

theorem OnlyGives.debugLevel? (gives : i.OnlyGives source k v) : i.debugLevel? j = none := by
  simp [Inputs.debugLevel?, Environment.debug?, gives.environment.debug]

theorem OnlyGives.value_other (gives : i.OnlyGives source k v)
    (listed : k ∈ ConfigFile.settings) (other : j ≠ k) :
    i.value (source.entries k v) j = Settings.defaults.given j := by
  simp [value, sources, gives.flag_value?, gives.debugLevel?, gives.environment_given? listed,
    OnlyGives.file_given? listed, other]

theorem OnlyGives.value_own (gives : i.OnlyGives source k v)
    (listed : k ∈ ConfigFile.settings) :
    i.value (source.entries k v) k =
      (if source = .flag then some (.text v) else k.given? v).getD (Settings.defaults.given k) := by
  simp only [value, sources, List.findSome?_cons, List.findSome?_nil, gives.flag_value?,
    gives.debugLevel?, gives.environment_given? listed, OnlyGives.file_given? listed]
  cases source with
  | file | environment => cases k.given? v <;> rfl
  | flag => rfl

theorem OnlyGives.check_own (gives : i.OnlyGives source k v) (listed : k ∈ ConfigFile.settings)
    {x : k.Value} (coerced : k.shape.coerce (.text v) = .ok x) :
    k.check (i.value (source.entries k v) k) = k.check (.text v) := by
  have given : k.given? v = some (k.shape.give x) := by
    rw [Setting.given?, toOption_eq_some_iff.2 coerced, Option.map_some]
  rw [gives.value_own listed, given]
  split
  next => rfl
  next => exact (Setting.check_of_coerced coerced).symm

theorem OnlyGives.accepted (gives : i.OnlyGives source k v) (listed : k ∈ ConfigFile.settings)
    (readable : source ≠ .flag → ∃ x, k.shape.coerce (.text v) = .ok x) :
    ∃ overrides file, i.Accepted overrides (source.entries k v) file := by
  have loaded : ∃ overrides, Environment.load i.world.environment = .ok overrides := by
    refine Environment.load_of_readable (fun j known => ?_) gives.environment.debug
    rw [Environment.readSetting, gives.environment.settings j known]
    cases source with
    | file | flag => exact ⟨none, rfl⟩
    | environment =>
      by_cases same : j = k
      · subst same
        obtain ⟨x, coerced⟩ := readable (by decide)
        exact ⟨_, by simp [Source.text?, coerced]; rfl⟩
      · exact ⟨none, by simp [Source.text?, same]⟩
  have layered : ∃ file, ConfigFile.layerOf (source.entries k v) = .ok file := by
    cases source with
    | file => exact (ConfigFile.layerOf_single listed).2 (readable (by decide))
    | environment | flag => exact ⟨[], rfl⟩
  obtain ⟨overrides, loaded⟩ := loaded
  obtain ⟨file, layered⟩ := layered
  refine ⟨overrides, file, loaded, gives.file, layered, ?_⟩
  rw [gives.flags]
  cases source with
  | file | environment => simp [Source.flags]
  | flag => exact List.forall_mem_singleton.2 ⟨k, rfl⟩

theorem OnlyGives.resolve_of_checked (gives : i.OnlyGives source k v)
    (listed : k ∈ ConfigFile.settings) (checked : k.check (.text v) = .ok (s.get k))
    (others : ∀ j, j ≠ k → s.get j = Settings.defaults.get j) : i.resolve = .ok s := by
  obtain ⟨x, coerced, _⟩ := bind_eq_ok checked
  obtain ⟨overrides, file, accepted⟩ := gives.accepted listed fun _ => ⟨x, coerced⟩
  refine Inputs.resolve_of_checked accepted fun j => ?_
  by_cases same : j = k
  · subst same
    rw [gives.check_own listed coerced, checked]
  · rw [gives.value_other listed same, others j same, Settings.check_defaults]

theorem OnlyGives.resolve_of_flawed (gives : i.OnlyGives source k v)
    (listed : k ∈ ConfigFile.settings) {flaw : Flaw} (flawed : k.check (.text v) = .error flaw) :
    ∃ cause, i.resolve = .error (.refused cause) ∧ cause.category = .config := by
  suffices ∃ cause, i.resolve = .error (.refused cause) by
    obtain ⟨cause, refused⟩ := this
    exact ⟨cause, refused, category_of_resolve refused⟩
  cases loaded : Environment.load i.world.environment with
  | error faults => exact ⟨_, resolve_of_unread loaded⟩
  | ok overrides =>
    cases coerced : k.shape.coerce (.text v) with
    | ok x =>
      obtain ⟨_, _, accepted⟩ := gives.accepted listed fun _ => ⟨x, coerced⟩
      rw [← gives.check_own listed coerced] at flawed
      obtain ⟨faults, refused⟩ := resolve_of_unchecked accepted flawed
      exact ⟨_, refused⟩
    | error flaw' =>
      -- A flag is read with all the settings, the other sources each on their own.
      cases source with
      | flag =>
        obtain ⟨_, _, accepted⟩ := gives.accepted listed fun other => absurd rfl other
        have own := gives.value_own listed
        rw [if_pos rfl, Option.getD_some] at own
        rw [← own] at flawed
        obtain ⟨faults, refused⟩ := resolve_of_unchecked accepted flawed
        exact ⟨_, refused⟩
      | environment =>
        have known := Environment.mem_settings_of_file listed
        obtain ⟨entry, read⟩ := Environment.readable_of_load loaded k known
        simp [Environment.readSetting, gives.environment.settings k known, Source.text?, coerced]
          at read
      | file =>
        cases read : ConfigFile.layerOf (Source.file.entries k v) with
        | ok layer =>
          obtain ⟨x, done⟩ := (ConfigFile.layerOf_single listed).1 ⟨layer, read⟩
          cases coerced.symm.trans done
        | error faults =>
          obtain ⟨path, refused⟩ := resolve_of_unlayered loaded gives.file read
          exact ⟨_, refused⟩

theorem given_of_accepted {overrides : Environment.Overrides} {entries : List (Given × Given)}
    {file : Layer} (accepted : i.Accepted overrides entries file) {g : Given}
    (member : (k, g) ∈ file ++ overrides.layer) :
    ∃ x, k.shape.coerce g = .ok x ∧ k.shape.give x = g := by
  suffices ∃ x, k.shape.give x = g by
    obtain ⟨x, rfl⟩ := this
    exact ⟨x, Shape.coerce_give _ x, rfl⟩
  rw [ConfigFile.layerOf_eq_ok accepted.file, Environment.load_eq_ok accepted.environment]
    at member
  simp only [Layer.ofValues, List.mem_append, List.mem_filterMap, Option.map_eq_some_iff,
    Prod.mk.injEq] at member
  rcases member with ⟨_, _, _, gives, rfl, rfl⟩ | ⟨_, known, _, gives, rfl, rfl⟩
  · obtain ⟨_, _, _, _, _, _, x, _, same⟩ := ConfigFile.given?_eq_some_iff.1 gives
    exact ⟨x, same⟩
  · rw [Environment.given?, if_pos known] at gives
    obtain ⟨_, _, gives⟩ := Option.bind_eq_some_iff.1 gives
    obtain ⟨x, _, same⟩ := Option.map_eq_some_iff.1 gives
    exact ⟨x, same⟩

theorem resolve_of_settled (resolved : i.resolve = .ok s) {other : Inputs}
    (flags : ∀ k, other.flags.value? k = some (s.given k)) (reaches : other.ReachesValidation) :
    other.resolve = .ok s := by
  obtain ⟨_, _, checked⟩ := check_value resolved
  obtain ⟨_, _, _, accepted⟩ := reachesValidation_iff.1 reaches
  refine Inputs.resolve_of_checked accepted fun k => ?_
  rw [value_of_flag (flags k)]
  exact Setting.check_checked (checked k)

theorem reachesValidation_settled (resolved : i.resolve = .ok s) :
    { i with flags := s.flags }.ReachesValidation := by
  obtain ⟨overrides, entries, file, accepted⟩ := reachesValidation_iff.1 (.inl ⟨s, resolved⟩)
  refine reachesValidation_iff.2 ⟨overrides, entries, file, accepted.environment,
    accepted.uses.of_same rfl rfl rfl, accepted.file, fun flag member => ?_⟩
  obtain ⟨k, _, rfl⟩ := List.mem_map.1 member
  exact ⟨k, rfl⟩

def Agree (k : Setting) (v : String) : Prop :=
  (∃ s : Settings, k.check (.text v) = .ok (s.get k) ∧
    (∀ j, j ≠ k → s.get j = Settings.defaults.get j) ∧
    ∀ source i, OnlyGives source k v i → i.resolve = .ok s) ∨
  ∀ source i, OnlyGives source k v i →
    ∃ cause, i.resolve = .error (.refused cause) ∧ cause.category = .config

theorem agree (listed : k ∈ ConfigFile.settings) (v : String) : Agree k v := by
  cases checked : k.check (.text v) with
  | error flaw =>
    exact .inr fun source i gives => gives.resolve_of_flawed listed checked
  | ok x =>
    refine .inl ⟨Settings.defaults.replaced k x, ?_, ?_, ?_⟩
    · rw [checked, Settings.get_replaced_own]
    · exact fun j other => Settings.get_replaced_other other
    · intro source i gives
      refine gives.resolve_of_checked listed ?_ fun j other => Settings.get_replaced_other other
      rw [checked, Settings.get_replaced_own]

/-- The settings in a file, a variable and a flag have one meaning, and reading a value once more,
as it was read or as it was settled on, changes nothing. -/
theorem values_agree : (∀ k ∈ ConfigFile.settings, ∀ v, Agree k v) ∧
    (∀ i overrides entries file, Accepted i overrides entries file →
      ∀ k g, (k, g) ∈ file ++ overrides.layer →
        ∃ x, k.shape.coerce g = .ok x ∧ k.shape.give x = g) ∧
    ∀ (i : Inputs) (s : Settings), i.resolve = .ok s →
      { i with flags := s.flags }.resolve = .ok s ∧ ∀ other : Inputs,
        (∀ k, other.flags.value? k = some (s.given k)) → other.ReachesValidation →
          other.resolve = .ok s :=
  ⟨fun _ listed v => agree listed v,
    fun _ _ _ _ accepted _ _ member => given_of_accepted accepted member,
    fun _ s resolved => ⟨resolve_of_settled resolved s.value?_flags
      (reachesValidation_settled resolved),
      fun _ flags reaches => resolve_of_settled resolved flags reaches⟩⟩

def lowerLevel : Source → Inputs
  | .file => { world := ⟨.ofHome "/home" [(["home", ".backupctl.yaml"],
      .file "log_level: 'debug'\n".toUTF8.toList)], []⟩ }
  | .environment => { world := ⟨.ofHome "/home", [("backupctl_Log_Level", "debug")]⟩ }
  | .flag => { world := ⟨.ofHome "/home", []⟩, flags := [("log_level", .text "debug")] }

theorem lowerLevel_onlyGives (source : Source) :
    OnlyGives source .logLevel "debug" (lowerLevel source) where
  file := by
    cases source with
    | file =>
      have held : ConfigFile.entries? (lowerLevel .file).world.files
          ⟨"/", ["home", ".backupctl.yaml"]⟩ = some [(.text "log_level", .text "debug")] := by
        decide +kernel
      exact .fallback rfl rfl rfl held
    | environment | flag => exact .nothing rfl rfl rfl
  environment := by
    cases source with
    | file | environment | flag => exact ⟨by decide, by decide⟩
  flags := by cases source <;> rfl

theorem values_agree_lowerLevel : ∃ s : Settings, s.logLevel = "DEBUG" ∧ ∀ source,
    (lowerLevel source).resolve = .ok s ∧
      { lowerLevel source with flags := s.flags }.resolve = .ok s := by
  obtain ⟨agree, _, settled⟩ := values_agree
  have resolved : (lowerLevel .flag).resolve =
      .ok { Settings.defaults with logLevel := "DEBUG" } := rfl
  rcases agree .logLevel (by decide) "debug" with ⟨s, _, _, same⟩ | refused
  · have resolves (source : Source) := same source _ (lowerLevel_onlyGives source)
    cases resolved.symm.trans (resolves .flag)
    exact ⟨_, rfl, fun source => ⟨resolves source, (settled _ _ (resolves source)).1⟩⟩
  · obtain ⟨cause, failed, _⟩ := refused _ _ (lowerLevel_onlyGives .flag)
    cases resolved.symm.trans failed

end Inputs

end BackupConsole
