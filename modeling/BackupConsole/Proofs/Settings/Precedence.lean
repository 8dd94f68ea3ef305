import BackupConsole.Proofs.Settings.Sources

set_option autoImplicit false

namespace BackupConsole

/-- What settings are resolved from: `typed` is the file named on the command line, `fallback` the
default one. -/
structure Inputs where
  world : World
  typed : Option String := none
  flags : Flags := []
  fallback : String := ConfigFile.defaultPath

namespace Inputs

def resolve (i : Inputs) : Except Failure Settings :=
  BackupConsole.resolve i.world i.typed i.flags i.fallback

def named (i : Inputs) : Option String :=
  (i.typed.filter (· != "")).or
    ((Environment.value? i.world.environment "config_file").filter (· != ""))

/-- The entries that the file layer is made from. -/
inductive Uses (i : Inputs) : List (Given × Given) → Prop
  | named {text : String} {path : Path} {entries : List (Given × Given)}
      (named : i.named = some text)
      (expanded : (Path.ofText text).expandHome i.world.files.homes = some path)
      (present : i.world.files.isFile path = .ok true)
      (held : ConfigFile.entries? i.world.files path = some entries) : Uses i entries
  | fallback {path : Path} {entries : List (Given × Given)} (unnamed : i.named = none)
      (expanded : (Path.ofText i.fallback).expandHome i.world.files.homes = some path)
      (present : i.world.files.isFile path = .ok true)
      (held : ConfigFile.entries? i.world.files path = some entries) : Uses i entries
  | nothing {path : Path} (unnamed : i.named = none)
      (expanded : (Path.ofText i.fallback).expandHome i.world.files.homes = some path)
      (absent : i.world.files.isFile path = .ok false) : Uses i []

def Missing (i : Inputs) (text : String) : Prop :=
  ∀ path, (Path.ofText text).expandHome i.world.files.homes = some path →
    i.world.files.isFile path ≠ .ok true

/-- The name leads somewhere, and the system tells whether there is a file. -/
def Searchable (i : Inputs) (text : String) : Prop :=
  ∃ path found, (Path.ofText text).expandHome i.world.files.homes = some path ∧
    i.world.files.isFile path = .ok found

structure Accepted (i : Inputs) (overrides : Environment.Overrides)
    (entries : List (Given × Given)) (file : Layer) : Prop where
  environment : Environment.load i.world.environment = .ok overrides
  uses : i.Uses entries
  file : ConfigFile.layerOf entries = .ok file
  flags : ∀ flag ∈ i.flags, ∃ k : Setting, flag.1 = k.name

def debugLevel? (i : Inputs) (k : Setting) : Option Given :=
  if k = .logLevel ∧ Environment.debug? i.world.environment = some true then some (.text "DEBUG")
  else none

def sources (i : Inputs) (entries : List (Given × Given)) : List (Setting → Option Given) :=
  [i.flags.value?, i.debugLevel?, Environment.given? i.world.environment,
    ConfigFile.given? entries]

def value (i : Inputs) (entries : List (Given × Given)) (k : Setting) : Given :=
  ((i.sources entries).findSome? (· k)).getD (Settings.defaults.given k)

/-- Both give the same for a setting, up to what higher sources mask. -/
def AgreeUnmasked (k : Setting) :
    List (Setting → Option Given) → List (Setting → Option Given) → Prop
  | [], [] => True
  | a :: as, b :: bs => a k = b k ∧ (a k = none → AgreeUnmasked k as bs)
  | _, _ => False

theorem findSome?_eq_of_agreeUnmasked {k : Setting} {as bs : List (Setting → Option Given)}
    (agree : AgreeUnmasked k as bs) : as.findSome? (· k) = bs.findSome? (· k) := by
  induction as generalizing bs with
  | nil =>
    cases bs with
    | nil => rfl
    | cons b bs => cases agree
  | cons a as ih =>
    cases bs with
    | nil => cases agree
    | cons b bs =>
      obtain ⟨same, below⟩ := agree
      rw [List.findSome?_cons, List.findSome?_cons, ← same]
      -- The sources below count only where this one gives nothing.
      cases given : a k with
      | some g => rfl
      | none => exact ih (below given)

def validated (layer : Layer) : Except Failure Settings :=
  (Settings.ofLayer layer).mapError fun faults => .refused (.invalidSettings faults)

theorem namedFile_filter {i : Inputs} {overrides : Environment.Overrides}
    (loaded : Environment.load i.world.environment = .ok overrides) :
    (namedFile i.typed overrides).filter (· != "") = i.named := by
  rw [Environment.load_eq_ok loaded]
  unfold namedFile named
  cases i.typed with
  | none => rfl
  | some text =>
    by_cases empty : text = ""
    · subst empty
      rfl
    · have kept : (some text).filter (· != "") = some text := by simp [Option.filter, empty]
      simp [kept, empty]

theorem resolve_of_unread {i : Inputs} {faults : List Fault}
    (unread : Environment.load i.world.environment = .error faults) :
    i.resolve = .error (.refused (.invalidEnvironment faults)) := by
  rw [resolve, BackupConsole.resolve, unread]
  rfl

def finish (i : Inputs) (overrides : Environment.Overrides) (file : Layer) :
    Except Failure Settings :=
  if i.flags.unknown = [] then validated (mergedLayer file overrides i.flags)
  else .error (.refused (.unknownSettings
    (i.flags.unknown.mergeSort fun a b => !decide (b < a))))

theorem finish_eq (i : Inputs) (overrides : Environment.Overrides) (file : Layer) :
    (if !i.flags.unknown.isEmpty then
      .error (.refused (.unknownSettings
        (i.flags.unknown.mergeSort fun a b => !decide (b < a))))
    else
      match Settings.ofLayer (mergedLayer file overrides i.flags) with
      | .ok settings => pure settings
      | .error faults => .error (.refused (.invalidSettings faults))) =
      i.finish overrides file := by
  unfold finish validated
  cases i.flags.unknown with
  | cons name rest => rfl
  | nil => cases Settings.ofLayer (mergedLayer file overrides i.flags) <;> rfl

theorem resolve_of_loaded {i : Inputs} {overrides : Environment.Overrides}
    (loaded : Environment.load i.world.environment = .ok overrides) :
    i.resolve = ((ConfigFile.find i.world.files i.named i.fallback).bind
      (ConfigFile.readFound i.world.files)).bind (i.finish overrides) := by
  rw [← namedFile_filter loaded, ConfigFile.find_filter, resolve, BackupConsole.resolve, loaded]
  simp only [pure_bind]
  cases ConfigFile.find i.world.files (namedFile i.typed overrides) i.fallback with
  | error e => rfl
  | ok found =>
    cases found with
    | none => exact finish_eq i overrides []
    | some path =>
      cases read : ConfigFile.load i.world.files path with
      | error e =>
        simp only [bind, Except.bind, ConfigFile.readFound, read]
      | ok file =>
        simp only [bind, Except.bind, ConfigFile.readFound, read]
        exact finish_eq i overrides file

theorem ne_empty_of_named {i : Inputs} {text : String} (named : i.named = some text) :
    text ≠ "" := by
  rcases Option.or_eq_some_iff.1 named with typed | ⟨_, given⟩
  · simpa using (Option.filter_eq_some_iff.1 typed).2
  · simpa using (Option.filter_eq_some_iff.1 given).2

theorem find_eq_ok_iff {i : Inputs} {file : Layer} :
    (ConfigFile.find i.world.files i.named i.fallback).bind
        (ConfigFile.readFound i.world.files) = .ok file ↔
      ∃ entries, i.Uses entries ∧ ConfigFile.layerOf entries = .ok file := by
  constructor
  · intro made
    cases named : i.named with
    | some text =>
      rw [named, ConfigFile.find_named_eq_ok_iff (ne_empty_of_named named)] at made
      obtain ⟨path, expanded, present, loaded⟩ := made
      obtain ⟨entries, held, read⟩ := ConfigFile.load_eq_ok_iff.1 loaded
      exact ⟨entries, .named named expanded present held, read⟩
    | none =>
      rw [named, ConfigFile.find_fallback_eq_ok_iff] at made
      obtain ⟨path, expanded, ⟨present, loaded⟩ | ⟨absent, rfl⟩⟩ := made
      · obtain ⟨entries, held, read⟩ := ConfigFile.load_eq_ok_iff.1 loaded
        exact ⟨entries, .fallback named expanded present held, read⟩
      · exact ⟨[], .nothing named expanded absent, rfl⟩
  · rintro ⟨entries, uses, read⟩
    cases uses with
    | named named expanded present held =>
      rw [named, ConfigFile.find_named_eq_ok_iff (ne_empty_of_named named)]
      exact ⟨_, expanded, present, ConfigFile.load_eq_ok_iff.2 ⟨entries, held, read⟩⟩
    | fallback unnamed expanded present held =>
      rw [unnamed, ConfigFile.find_fallback_eq_ok_iff]
      exact ⟨_, expanded, .inl ⟨present, ConfigFile.load_eq_ok_iff.2 ⟨entries, held, read⟩⟩⟩
    | nothing unnamed expanded absent =>
      rw [unnamed, ConfigFile.find_fallback_eq_ok_iff]
      exact ⟨_, expanded, .inr ⟨absent, Except.ok.inj read⟩⟩

theorem resolve_of_accepted {i : Inputs} {overrides : Environment.Overrides}
    {entries : List (Given × Given)} {file : Layer} (accepted : i.Accepted overrides entries file) :
    i.resolve = validated (mergedLayer file overrides i.flags) := by
  have made := find_eq_ok_iff.2 ⟨entries, accepted.uses, accepted.file⟩
  rw [resolve_of_loaded accepted.environment, made, Except.bind, finish,
    if_pos (Flags.unknown_eq_nil_iff.2 accepted.flags)]

def ReachesValidation (i : Inputs) : Prop :=
  (∃ s, i.resolve = .ok s) ∨ ∃ faults, i.resolve = .error (.refused (.invalidSettings faults))

theorem reachesValidation_iff {i : Inputs} :
    i.ReachesValidation ↔ ∃ overrides entries file, i.Accepted overrides entries file := by
  unfold ReachesValidation
  constructor
  · intro reached
    cases loaded : Environment.load i.world.environment with
    | error faults =>
      rw [resolve_of_unread loaded] at reached
      simp at reached
    | ok overrides =>
      rw [resolve_of_loaded loaded] at reached
      have other := ConfigFile.find_ne_invalidSettings i.world.files i.named i.fallback
      cases made : (ConfigFile.find i.world.files i.named i.fallback).bind
          (ConfigFile.readFound i.world.files) with
      | error e =>
        rw [made] at reached other
        obtain ⟨s, done⟩ | ⟨faults, refused⟩ := reached
        · cases done
        · cases refused
          exact absurd rfl (other faults)
      | ok file =>
        obtain ⟨entries, uses, read⟩ := find_eq_ok_iff.1 made
        refine ⟨overrides, entries, file, loaded, uses, read, Flags.unknown_eq_nil_iff.1 ?_⟩
        by_contra strange
        rw [made, Except.bind, finish, if_neg strange] at reached
        simp at reached
  · rintro ⟨overrides, entries, file, accepted⟩
    rw [resolve_of_accepted accepted, validated]
    cases Settings.ofLayer (mergedLayer file overrides i.flags) with
    | ok s => exact .inl ⟨s, rfl⟩
    | error faults => exact .inr ⟨faults, rfl⟩

theorem environmentLayer_eq {i : Inputs} {overrides : Environment.Overrides}
    (loaded : Environment.load i.world.environment = .ok overrides) :
    environmentLayer overrides =
      if Environment.debug? i.world.environment = some true then
        (Layer.ofValues Environment.settings (Environment.given? i.world.environment)).set
          .logLevel (.text "DEBUG")
      else Layer.ofValues Environment.settings (Environment.given? i.world.environment) := by
  rw [Environment.load_eq_ok loaded, environmentLayer]
  rcases Environment.debug? i.world.environment with _ | _ | _ <;> rfl

theorem lastValue?_environmentLayer {i : Inputs} {overrides : Environment.Overrides}
    (loaded : Environment.load i.world.environment = .ok overrides) (k : Setting) :
    Mapping.lastValue? (· == ·) (environmentLayer overrides) k =
      (i.debugLevel? k).or (Environment.given? i.world.environment k) := by
  have unique := Layer.unique_ofValues Environment.nodup_settings
    (Environment.given? i.world.environment)
  have given : (Layer.ofValues Environment.settings
      (Environment.given? i.world.environment)).get? k =
      Environment.given? i.world.environment k := by
    rw [Layer.get?_ofValues]
    by_cases listed : k ∈ Environment.settings <;> simp [Environment.given?, listed]
  rw [environmentLayer_eq loaded, debugLevel?]
  by_cases asked : Environment.debug? i.world.environment = some true
  · rw [if_pos asked, Layer.lastValue?_of_unique (Layer.unique_set unique _ _), Layer.get?_set,
      given]
    by_cases level : k = .logLevel
    · simp [level, asked]
    · simp [level, Ne.symm level]
  · rw [if_neg asked, Layer.lastValue?_of_unique unique, given]
    simp [asked]

theorem get?_mergedLayer {i : Inputs} {overrides : Environment.Overrides}
    {entries : List (Given × Given)} {file : Layer} (accepted : i.Accepted overrides entries file)
    (k : Setting) :
    (mergedLayer file overrides i.flags).get? k = some (i.value entries k) := by
  have filed : Mapping.lastValue? (· == ·) file k = ConfigFile.given? entries k := by
    rw [ConfigFile.layerOf_eq_ok accepted.file, Layer.lastValue?_of_unique
      (Layer.unique_ofValues ConfigFile.nodup_settings _), Layer.get?_ofValues]
    by_cases listed : k ∈ ConfigFile.settings <;> simp [ConfigFile.given?, listed]
  rw [mergedLayer, Layer.get?_update, Layer.get?_update, Layer.get?_update,
    Flags.lastValue?_layer, lastValue?_environmentLayer accepted.environment, filed,
    Layer.get?_defaultLayer, value, sources]
  -- Each update asks its upper layer first, so the highest layer is the outermost `or`.
  simp only [List.findSome?_cons, List.findSome?_nil]
  cases i.flags.value? k with
  | some g => rfl
  | none =>
    cases i.debugLevel? k with
    | some g => rfl
    | none =>
      cases Environment.given? i.world.environment k with
      | some g => rfl
      | none => cases ConfigFile.given? entries k <;> rfl

example : resolve {
    world := ⟨.ofHome "/home", [("backupctl_Log_Level", "error"), ("BACKUPCTL_DEBUG", "on")]⟩
    flags := [("storage_name", .text "s3")] } =
    .ok { Settings.defaults with logLevel := "DEBUG", storageName := "s3" } := rfl

def TakesPrecedence (i : Inputs) : Prop :=
  ∀ overrides entries file, i.Accepted overrides entries file →
    i.resolve = validated (mergedLayer file overrides i.flags) ∧
      ∀ k, (mergedLayer file overrides i.flags).get? k = some (i.value entries k)

def RefusesMissing (i : Inputs) : Prop :=
  ∀ overrides text, Environment.load i.world.environment = .ok overrides →
    i.named = some text → i.Missing text →
      ∃ place, i.resolve = .error (.refused (.noConfigFile place))

def NeverFallsBack (i : Inputs) : Prop :=
  ∀ text, i.named = some text → (i.Missing text → ∃ e, i.resolve = .error e) ∧
    ∀ other, { i with fallback := other }.resolve = i.resolve

def IgnoresMasked (i : Inputs) : Prop :=
  ∀ (j : Inputs) overrides overrides' entries entries' file file',
    i.Accepted overrides entries file → j.Accepted overrides' entries' file' →
      (∀ k, AgreeUnmasked k (i.sources entries) (j.sources entries')) → i.resolve = j.resolve

def IgnoresUnrelated (i : Inputs) : Prop :=
  ∀ vars : Environment.Variables, vars.filter (fun entry => Environment.related entry.1) =
      i.world.environment.filter (fun entry => Environment.related entry.1) →
    { i with world := { i.world with environment := vars } }.resolve = i.resolve

structure Layered (i : Inputs) : Prop where
  precedence : i.TakesPrecedence
  missing : i.RefusesMissing
  fallback : i.NeverFallsBack
  masked : i.IgnoresMasked
  unrelated : i.IgnoresUnrelated

theorem takesPrecedence (i : Inputs) : i.TakesPrecedence :=
  fun _ _ _ accepted => ⟨resolve_of_accepted accepted, get?_mergedLayer accepted⟩

theorem searchable_or_unfound (i : Inputs) (text : String) :
    i.Searchable text ∨ ∃ e, ConfigFile.Unfound i.world.files text e := by
  match looked : ConfigFile.lookUp i.world.files text with
  | .ok (path, found) => exact .inl ⟨path, found, ConfigFile.lookUp_eq_ok_iff.1 looked⟩
  | .error e => exact .inr ⟨e, ConfigFile.lookUp_eq_error_iff.1 looked⟩

theorem missing_of_unfound {i : Inputs} {text : String} {e : Failure}
    (unfound : ConfigFile.Unfound i.world.files text e) : i.Missing text := by
  intro path expanded present
  have looked := ConfigFile.lookUp_eq_ok_iff.2 ⟨expanded, present⟩
  cases looked.symm.trans (ConfigFile.lookUp_eq_error_iff.2 unfound)

theorem resolve_of_unfound {i : Inputs} {overrides : Environment.Overrides} {text : String}
    {e : Failure} (loaded : Environment.load i.world.environment = .ok overrides)
    (named : i.named = some text) (unfound : ConfigFile.Unfound i.world.files text e) :
    i.resolve = .error e := by
  rw [resolve_of_loaded loaded, named, ConfigFile.find_of_named (ne_empty_of_named named),
    ConfigFile.lookUp_eq_error_iff.2 unfound]
  rfl

theorem resolve_of_absent {i : Inputs} {overrides : Environment.Overrides} {text : String}
    {path : Path} (loaded : Environment.load i.world.environment = .ok overrides)
    (named : i.named = some text)
    (expanded : (Path.ofText text).expandHome i.world.files.homes = some path)
    (absent : i.world.files.isFile path = .ok false) :
    i.resolve = .error (.refused (.noConfigFile path.toText)) := by
  rw [resolve_of_loaded loaded, named, ConfigFile.find_of_named (ne_empty_of_named named),
    ConfigFile.lookUp_eq_ok_iff.2 ⟨expanded, absent⟩]
  rfl

theorem refusesMissing_iff {i : Inputs} :
    i.RefusesMissing ↔ ∀ overrides text, Environment.load i.world.environment = .ok overrides →
      i.named = some text → i.Searchable text := by
  constructor
  · intro refuses overrides text loaded named
    refine (i.searchable_or_unfound text).resolve_right ?_
    rintro ⟨e, unfound⟩
    obtain ⟨place, refused⟩ := refuses overrides text loaded named (missing_of_unfound unfound)
    have other := unfound.ne_refused (.noConfigFile place)
    exact other (Except.error.inj ((resolve_of_unfound loaded named unfound).symm.trans refused))
  · intro searchable overrides text loaded named missing
    obtain ⟨path, found, expanded, looked⟩ := searchable overrides text loaded named
    cases found with
    | true => exact absurd looked (missing path expanded)
    | false => exact ⟨path.toText, resolve_of_absent loaded named expanded looked⟩

theorem neverFallsBack (i : Inputs) : i.NeverFallsBack := by
  intro text named
  constructor
  · intro missing
    cases loaded : Environment.load i.world.environment with
    | error faults => exact ⟨_, resolve_of_unread loaded⟩
    | ok overrides =>
      obtain ⟨path, found, expanded, looked⟩ | ⟨e, unfound⟩ := i.searchable_or_unfound text
      · cases found with
        | true => exact absurd looked (missing path expanded)
        | false => exact ⟨_, resolve_of_absent loaded named expanded looked⟩
      · exact ⟨e, resolve_of_unfound loaded named unfound⟩
  · intro other
    have found : ConfigFile.find i.world.files i.named other =
        ConfigFile.find i.world.files i.named i.fallback := by
      have nonempty := ne_empty_of_named named
      rw [named, ConfigFile.find_of_named nonempty, ConfigFile.find_of_named nonempty]
    cases loaded : Environment.load i.world.environment with
    | error faults =>
      rw [resolve_of_unread loaded]
      exact resolve_of_unread loaded
    | ok overrides =>
      rw [resolve_of_loaded loaded, ← found]
      exact resolve_of_loaded loaded

theorem ignoresMasked (i : Inputs) : i.IgnoresMasked := by
  intro j overrides overrides' entries entries' file file' accepted accepted' agree
  -- Settings are made from what a layer gives, so it is enough that both layers give the same.
  rw [resolve_of_accepted accepted, resolve_of_accepted accepted', validated, validated]
  refine congrArg _ (Settings.ofLayer_congr fun k => ?_)
  rw [get?_mergedLayer accepted, get?_mergedLayer accepted', value, value,
    findSome?_eq_of_agreeUnmasked (agree k)]

theorem ignoresUnrelated (i : Inputs) : i.IgnoresUnrelated := by
  intro vars same
  have loaded : Environment.load vars = Environment.load i.world.environment := by
    rw [← Environment.load_filter_related, same, Environment.load_filter_related]
  simp only [resolve, BackupConsole.resolve, loaded]

/-- The sources are read in their order, always; but a named file that cannot even be looked for, in
the home folder of a user that is not known or behind a folder that lets no one in, escapes where it
should be told missing. -/
theorem layered_iff (i : Inputs) :
    (i.Layered ↔ ∀ overrides text, Environment.load i.world.environment = .ok overrides →
      i.named = some text → i.Searchable text) ∧
    i.TakesPrecedence ∧ i.NeverFallsBack ∧ i.IgnoresMasked ∧ i.IgnoresUnrelated ∧
    (i.ReachesValidation ↔ ∃ overrides entries file, i.Accepted overrides entries file) := by
  refine ⟨⟨fun layered => refusesMissing_iff.1 layered.missing, fun searchable => ?_⟩,
    takesPrecedence i, neverFallsBack i, ignoresMasked i, ignoresUnrelated i,
    reachesValidation_iff⟩
  exact {
    precedence := takesPrecedence i
    missing := refusesMissing_iff.2 searchable
    fallback := neverFallsBack i
    masked := ignoresMasked i
    unrelated := ignoresUnrelated i }

def strangersFile : Inputs :=
  { world := ⟨.ofHome "/home", []⟩, typed := some "~nosuchuser_zz/backup.yaml" }

theorem strangers_file_untold : ¬ strangersFile.Layered := by
  intro layered
  have missing : strangersFile.Missing "~nosuchuser_zz/backup.yaml" := by
    intro path expanded
    cases expanded
  obtain ⟨place, refused⟩ := layered.missing _ _ rfl rfl missing
  cases refused

end Inputs

end BackupConsole
