import BackupConsole.Proofs.Except
import BackupConsole.Proofs.Settings.Layer
import BackupConsole.Settings.Resolve
import Mathlib.Data.List.Basic

set_option autoImplicit false

namespace BackupConsole

theorem Setting.ofName?_eq_some_iff {name : String} {k : Setting} :
    Setting.ofName? name = some k ↔ name = k.name := by
  constructor
  · intro found
    have same := List.find?_some found
    exact (beq_iff_eq.1 same).symm
  · rintro rfl
    cases k <;> rfl

theorem Layer.ofValues_of_readings {settings : List Setting}
    (read : Setting → Except Fault (Option (Setting × Given))) (value? : Setting → Option Given)
    (readable : ∀ k ∈ settings, ∀ entry, read k = .ok entry →
      entry = (value? k).map fun g => (k, g))
    (faultless : ((settings.map read).filterMap fun
      | .error fault => some fault
      | .ok _ => none) = []) :
    ((settings.map read).filterMap fun
      | .ok entry => entry
      | .error _ => none) = Layer.ofValues settings value? := by
  rw [Layer.ofValues, List.filterMap_map]
  refine List.filterMap_congr fun k listed => ?_
  have accepted := List.filterMap_eq_nil_iff.1 faultless (read k) (List.mem_map_of_mem listed)
  rw [Function.comp_apply]
  cases reading : read k with
  | ok entry => exact readable k listed entry reading
  | error fault => simp [reading] at accepted

theorem Layer.faultless_iff {settings : List Setting}
    {read : Setting → Except Fault (Option (Setting × Given))} :
    ((settings.map read).filterMap fun
      | .error fault => some fault
      | .ok _ => none) = [] ↔ ∀ k ∈ settings, ∃ entry, read k = .ok entry := by
  simp only [List.filterMap_eq_nil_iff, List.forall_mem_map]
  refine forall₂_congr fun k _ => ?_
  cases read k <;> simp

namespace Flags

def value? (flags : Flags) (k : Setting) : Option Given :=
  Mapping.lastValue? (· == ·) flags k.name

theorem lastValue?_layer (flags : Flags) (k : Setting) :
    Mapping.lastValue? (· == ·) flags.layer k = flags.value? k := by
  induction flags with
  | nil => rfl
  | cons flag rest ih =>
    obtain ⟨name, v⟩ := flag
    rw [value?, Mapping.lastValue?_cons, ← value?, ← ih]
    by_cases named : name = k.name
    · subst named
      have layered : layer ((k.name, v) :: rest) = (k, v) :: layer rest := by
        simp [layer, Setting.ofName?_eq_some_iff.2 rfl]
      simp [layered, Mapping.lastValue?_cons]
    · cases found : Setting.ofName? name with
      | none =>
        have layered : layer ((name, v) :: rest) = layer rest := by simp [layer, found]
        simp [layered, named]
      | some j =>
        have layered : layer ((name, v) :: rest) = (j, v) :: layer rest := by simp [layer, found]
        have other : j ≠ k := by
          rintro rfl
          exact named (Setting.ofName?_eq_some_iff.1 found)
        simp [layered, Mapping.lastValue?_cons, named, other]

theorem unknown_eq_nil_iff {flags : Flags} :
    flags.unknown = [] ↔ ∀ flag ∈ flags, ∃ k : Setting, flag.1 = k.name := by
  simp only [unknown, List.filter_eq_nil_iff, List.mem_map, forall_exists_index, and_imp,
    forall_apply_eq_imp_iff₂]
  refine forall_congr' fun flag => imp_congr_right fun _ => ?_
  cases found : Setting.ofName? flag.1 with
  | none =>
    have strange : ¬ ∃ k : Setting, flag.1 = k.name := by
      rintro ⟨k, named⟩
      rw [Setting.ofName?_eq_some_iff.2 named] at found
      cases found
    simp [strange]
  | some k => simpa using ⟨k, Setting.ofName?_eq_some_iff.1 found⟩

end Flags

namespace Environment

theorem nodup_settings : settings.Nodup := by decide

def given? (vars : Variables) (k : Setting) : Option Given :=
  if k ∈ settings then
    (value? vars (suffix k)).bind fun text =>
      (k.shape.coerce (.text text)).toOption.map k.shape.give
  else none

def debug? (vars : Variables) : Option Bool :=
  (value? vars "debug").bind fun text => (Given.boolOfWord text).toOption

theorem readSetting_eq_ok {vars : Variables} {k : Setting} (listed : k ∈ settings)
    {entry : Option (Setting × Given)} (reading : readSetting vars k = .ok entry) :
    entry = (given? vars k).map fun g => (k, g) := by
  unfold readSetting at reading
  rw [given?, if_pos listed]
  cases held : value? vars (suffix k) with
  | none => simpa [held] using reading.symm
  | some text =>
    rw [held] at reading
    cases coerced : k.shape.coerce (.text text) with
    | ok v => simpa [coerced, Except.toOption] using reading.symm
    | error flaw => simp [coerced] at reading

theorem load_eq_ok {vars : Variables} {overrides : Overrides} (loaded : load vars = .ok overrides) :
    overrides = {
      layer := Layer.ofValues settings (given? vars)
      configFile := value? vars "config_file"
      debug := debug? vars } := by
  unfold load at loaded
  cases asked : readDebug vars with
  | error fault => simp [asked] at loaded
  | ok debug =>
    simp only [asked] at loaded
    split at loaded
    next faultless =>
      rw [Except.ok.injEq] at loaded
      subst loaded
      have read := Layer.ofValues_of_readings (readSetting vars) (given? vars)
        (fun _ => readSetting_eq_ok) (List.isEmpty_iff.1 faultless)
      have asked : debug = debug? vars := by
        unfold readDebug at asked
        rw [debug?]
        cases held : value? vars "debug" with
        | none => simpa [held] using asked.symm
        | some text =>
          rw [held] at asked
          cases word : Given.boolOfWord text with
          | ok b => simpa [word, Except.toOption] using asked.symm
          | error flaw => simp [word] at asked
      rw [Overrides.mk.injEq]
      exact ⟨read, rfl, asked⟩
    next => cases loaded

def tails : List String := settings.map suffix ++ ["config_file", "debug"]

def related (name : String) : Bool :=
  tails.any fun tail => Text.lower name == Text.lower lead ++ tail

theorem value?_filter_related (vars : Variables) {tail : String} (listed : tail ∈ tails) :
    value? (vars.filter fun entry => related entry.1) tail = value? vars tail := by
  simp only [value?, ← List.filter_reverse, List.find?_filter]
  congr 2
  funext entry
  cases named : Text.lower entry.1 == Text.lower lead ++ tail with
  | false => simp
  | true =>
    have read : related entry.1 = true := List.any_eq_true.2 ⟨tail, listed, named⟩
    simp [read]

theorem load_filter_related (vars : Variables) :
    load (vars.filter fun entry => related entry.1) = load vars := by
  -- Loading asks for the values of these names only.
  have read : settings.map (readSetting (vars.filter fun entry => related entry.1)) =
      settings.map (readSetting vars) := by
    refine List.map_congr_left fun k listed => ?_
    have own : suffix k ∈ tails := List.mem_append_left _ (List.mem_map_of_mem listed)
    rw [readSetting, value?_filter_related vars own, readSetting]
  have file := value?_filter_related vars (show "config_file" ∈ tails by decide)
  have debug := value?_filter_related vars (show "debug" ∈ tails by decide)
  simp only [load, read, readDebug, file, debug]

end Environment

namespace ConfigFile

theorem nodup_settings : settings.Nodup := by decide

def given? (entries : List (Given × Given)) (k : Setting) : Option Given :=
  if k ∈ settings then
    match (spelling? entries k).bind (valueOf? entries) with
    | none => none
    | some .null => none
    | some g => (k.shape.coerce g).toOption.map k.shape.give
  else none

theorem readSetting_eq_ok {entries : List (Given × Given)} {k : Setting} (listed : k ∈ settings)
    {entry : Option (Setting × Given)} (reading : readSetting entries k = .ok entry) :
    entry = (given? entries k).map fun g => (k, g) := by
  unfold readSetting at reading
  cases spelt : spelling? entries k with
  | none => simpa [given?, listed, spelt] using reading.symm
  | some name =>
    simp only [spelt] at reading
    split at reading
    next held => simpa [given?, listed, spelt, held] using reading.symm
    next held => simpa [given?, listed, spelt, held] using reading.symm
    next g given held =>
      rw [given?, if_pos listed, spelt, Option.bind_some, held]
      cases coerced : k.shape.coerce g with
      | ok v =>
        rw [coerced] at reading
        cases g <;> simp_all [Except.toOption]
      | error flaw => simp [coerced] at reading

theorem layerOf_eq_ok {entries : List (Given × Given)} {layer : Layer}
    (read : layerOf entries = .ok layer) :
    layer = Layer.ofValues settings (given? entries) := by
  unfold layerOf at read
  simp only [List.isEmpty_iff, List.append_eq_nil_iff] at read
  split at read
  next faultless =>
    rw [Except.ok.injEq] at read
    subst read
    exact Layer.ofValues_of_readings (readSetting entries) (given? entries)
      (fun _ => readSetting_eq_ok) faultless.1
  next => cases read

def entries? (files : Files) (path : Path) : Option (List (Given × Given)) :=
  match files.read path with
  | .error _ => none
  | .ok bytes => match documentIn files.reader path.toText bytes with
    | .ok .empty => some []
    | .ok (.mapping entries) => some entries
    | _ => none

theorem load_eq_ok_iff {files : Files} {path : Path} {layer : Layer} :
    load files path = .ok layer ↔
      ∃ entries, entries? files path = some entries ∧ layerOf entries = .ok layer := by
  have blank : layerOf [] = .ok [] := rfl
  unfold load entries?
  cases found : files.read path with
  | error problem => cases problem <;> simp
  | ok bytes =>
    cases made : documentIn files.reader path.toText bytes with
    | error e => simp [made]
    | ok document =>
      cases document with
      | empty => simp [made, blank, eq_comm]
      | other v => simp [made]
      | mapping entries => cases read : layerOf entries <;> simp [made, read]

def lookUp (files : Files) (text : String) : Except Failure (Path × Bool) :=
  (expand files text).bind fun path => (present files path).map fun found => (path, found)

theorem lookUp_eq_ok_iff {files : Files} {text : String} {path : Path} {found : Bool} :
    lookUp files text = .ok (path, found) ↔
      (Path.ofText text).expandHome files.homes = some path ∧ files.isFile path = .ok found := by
  simp only [lookUp, expand, present]
  cases (Path.ofText text).expandHome files.homes with
  | none => simp [Except.bind]
  | some other =>
    cases looked : files.isFile other with
    | error problem =>
      simp only [Except.bind, Except.map, Except.mapError, looked, reduceCtorEq, false_iff]
      rintro ⟨⟨⟩, found⟩
      cases looked.symm.trans found
    | ok found =>
      simp only [Except.bind, Except.map, Except.mapError, looked]
      grind

theorem homeless_cases (path : Path) :
    homeless path = .badValue none ∨ ∃ text, homeless path = .raised .other text := by
  unfold homeless
  split
  next => exact .inl rfl
  next => exact .inr ⟨_, rfl⟩

theorem homeless_ne_refused (path : Path) (cause : Cause) : homeless path ≠ .refused cause := by
  rcases homeless_cases path with same | ⟨text, same⟩ <;> simp [same]

inductive Unfound (files : Files) (text : String) : Failure → Prop
  | homeless (unknown : (Path.ofText text).expandHome files.homes = none) :
      Unfound files text (homeless (Path.ofText text))
  | obstructed {path : Path} {problem : FileProblem}
      (expanded : (Path.ofText text).expandHome files.homes = some path)
      (unknown : files.isFile path = .error problem) :
      Unfound files text (.unusableFile problem path.toText)

theorem lookUp_eq_error_iff {files : Files} {text : String} {e : Failure} :
    lookUp files text = .error e ↔ Unfound files text e := by
  simp only [lookUp, expand, present]
  constructor
  · intro failed
    cases expanded : (Path.ofText text).expandHome files.homes with
    | none =>
      rw [expanded] at failed
      cases failed
      exact .homeless expanded
    | some path =>
      rw [expanded] at failed
      cases looked : files.isFile path with
      | ok found => simp [Except.bind, Except.map, Except.mapError, looked] at failed
      | error problem =>
        simp only [Except.bind, Except.map, Except.mapError, looked] at failed
        cases failed
        exact .obstructed expanded looked
  · rintro (unknown | ⟨expanded, unknown⟩)
    · rw [unknown]
      rfl
    · simp [Except.bind, Except.map, Except.mapError, expanded, unknown]

theorem Unfound.ne_refused {files : Files} {text : String} {e : Failure}
    (unfound : Unfound files text e) (cause : Cause) : e ≠ .refused cause := by
  cases unfound with
  | obstructed expanded unknown => simp
  | homeless unknown => exact homeless_ne_refused _ cause

theorem find_filter (files : Files) (named : Option String) (fallback : String) :
    find files (named.filter (· != "")) fallback = find files named fallback := by
  simp only [find, Option.filter_filter, Bool.and_self]

theorem find_of_named {files : Files} {text : String} (nonempty : text ≠ "") (fallback : String) :
    find files (some text) fallback = (lookUp files text).bind fun (path, found) =>
      if found then .ok (some path) else .error (.refused (.noConfigFile path.toText)) := by
  simp only [find, Option.filter_some, bne_iff_ne, ne_eq, nonempty, not_false_eq_true, if_true,
    lookUp]
  cases expand files text with
  | error e => rfl
  | ok path =>
    cases looked : present files path <;>
      simp [bind, pure, Except.bind, Except.pure, Except.map, looked]

theorem find_of_unnamed (files : Files) (fallback : String) :
    find files none fallback = (lookUp files fallback).bind fun (path, found) =>
      .ok (if found then some path else none) := by
  simp only [find, Option.filter_none, lookUp]
  cases expand files fallback with
  | error e => rfl
  | ok path =>
    cases looked : present files path <;>
      simp [bind, pure, Except.bind, Except.pure, Except.map, looked]

def readFound (files : Files) : Option Path → Except Failure Layer
  | some path => load files path
  | none => .ok []

theorem find_named_eq_ok_iff {files : Files} {text : String} {layer : Layer} (nonempty : text ≠ "")
    (fallback : String) :
    (find files (some text) fallback).bind (readFound files) = .ok layer ↔
      ∃ path, (Path.ofText text).expandHome files.homes = some path ∧
        files.isFile path = .ok true ∧ load files path = .ok layer := by
  rw [find_of_named nonempty]
  simp only [← and_assoc, ← lookUp_eq_ok_iff]
  match looked : lookUp files text with
  | .error e => simp [Except.bind]
  | .ok (path, true) => simp [Except.bind, readFound]
  | .ok (path, false) => simp [Except.bind]

theorem find_fallback_eq_ok_iff {files : Files} {fallback : String} {layer : Layer} :
    (find files none fallback).bind (readFound files) = .ok layer ↔
      ∃ path, (Path.ofText fallback).expandHome files.homes = some path ∧
        (files.isFile path = .ok true ∧ load files path = .ok layer ∨
          files.isFile path = .ok false ∧ [] = layer) := by
  rw [find_of_unnamed]
  simp only [and_or_left, ← and_assoc, ← lookUp_eq_ok_iff]
  match looked : lookUp files fallback with
  | .error e => simp [Except.bind]
  | .ok (path, true) => simp [Except.bind, readFound]
  | .ok (path, false) => simp [Except.bind, readFound]

theorem failureOf_ne_invalidSettings (name : String) (defect : Yaml.Defect) (faults : List Fault) :
    failureOf name defect ≠ .refused (.invalidSettings faults) := by
  cases defect <;> simp [failureOf]

theorem documentIn_ne_invalidSettings (reader : Yaml.Reader) (name : String) (bytes : List UInt8)
    (faults : List Fault) :
    documentIn reader name bytes ≠ .error (.refused (.invalidSettings faults)) := by
  unfold documentIn
  split
  next =>
    cases reader.early bytes with
    | none => simp
    | some defect => simpa using failureOf_ne_invalidSettings name defect faults
  next text _ =>
    cases Yaml.documentOf reader (Text.unifyLineEnds text.toList) with
    | error defect => simpa [Except.mapError] using failureOf_ne_invalidSettings name defect faults
    | ok document => simp [Except.mapError]

theorem load_ne_invalidSettings (files : Files) (path : Path) (faults : List Fault) :
    load files path ≠ .error (.refused (.invalidSettings faults)) := by
  unfold load
  cases files.read path with
  | error problem => cases problem <;> simp
  | ok bytes =>
    have other := documentIn_ne_invalidSettings files.reader path.toText bytes faults
    cases made : documentIn files.reader path.toText bytes with
    | error e => simpa [made] using other
    | ok document =>
      cases document with
      | empty => simp [made]
      | other v => simp [made]
      | mapping entries => cases read : layerOf entries <;> simp [made, read]

theorem find_eq_error {files : Files} {named : Option String} {fallback : String} {e : Failure}
    (failed : find files named fallback = .error e) :
    Unfound files ((named.filter (· != "")).getD fallback) e ∨
      ∃ place, e = .refused (.noConfigFile place) := by
  rw [← find_filter] at failed
  cases chosen : named.filter (· != "") with
  | none =>
    rw [chosen, find_of_unnamed] at failed
    obtain unfound | ⟨_, _, done⟩ := bind_eq_error failed
    · exact .inl (lookUp_eq_error_iff.1 unfound)
    · cases done
  | some text =>
    have nonempty : text ≠ "" := by simpa using (Option.filter_eq_some_iff.1 chosen).2
    rw [chosen, find_of_named nonempty] at failed
    obtain unfound | ⟨⟨path, found⟩, _, missing⟩ := bind_eq_error failed
    · exact .inl (lookUp_eq_error_iff.1 unfound)
    · cases found with
      | true => cases missing
      | false => exact .inr ⟨path.toText, (Except.error.inj missing).symm⟩

theorem find_ne_invalidSettings (files : Files) (named : Option String) (fallback : String)
    (faults : List Fault) :
    (find files named fallback).bind (readFound files) ≠
      .error (.refused (.invalidSettings faults)) := by
  intro failed
  obtain unfound | ⟨found, _, unread⟩ := bind_eq_error failed
  · obtain unfound | ⟨place, missing⟩ := find_eq_error unfound
    · exact unfound.ne_refused _ rfl
    · cases missing
  · cases found with
    | none => cases unread
    | some path => exact load_ne_invalidSettings files path faults unread

end ConfigFile

end BackupConsole
