import BackupConsole.Proofs.Certificates
import BackupConsole.Proofs.Settings.Precedence
import BackupConsole.Proofs.Yaml.Construction

set_option autoImplicit false

namespace BackupConsole

section

variable {α β : Type}

inductive Told : Except Failure α → Prop
  | done (a : α) : Told (.ok a)
  | refused {cause : Cause} (config : cause.category = .config) : Told (.error (.refused cause))

def Untold (x : Except Failure α) (e : Failure) : Prop := x = .error e ∧ ¬ Told x

theorem Told.not_untold {x : Except Failure α} (told : Told x) (e : Failure) : ¬ Untold x e :=
  fun untold => untold.2 told

theorem told_iff {x : Except Failure α} : Told x ↔ ∀ e, ¬ Untold x e := by
  constructor
  · exact Told.not_untold
  · intro none
    cases x with
    | ok a => exact .done a
    | error e => exact Classical.not_not.1 fun untold => none e ⟨rfl, untold⟩

theorem untold_error_iff {e e' : Failure} (other : ∀ cause, e ≠ .refused cause) :
    Untold (.error e : Except Failure α) e' ↔ e = e' := by
  constructor
  · exact fun untold => Except.error.inj untold.1
  · rintro rfl
    refine ⟨rfl, fun told => ?_⟩
    cases told with
    | refused config => exact other _ rfl

theorem untold_bind {x : Except Failure α} {f : α → Except Failure β} {e : Failure} :
    Untold (x.bind f) e ↔ Untold x e ∨ ∃ a, x = .ok a ∧ Untold (f a) e := by
  cases x with
  | ok a =>
    have done := Told.not_untold (.done a) e
    simp [Except.bind, done]
  | error first =>
    -- The types of the results differ, and the error is the same.
    have same : Told (.error first : Except Failure β) ↔
        Told (.error first : Except Failure α) := by
      constructor
      all_goals
        intro told
        cases told with
        | refused config => exact .refused config
    simp [Except.bind, Untold, same]

end

theorem Files.isFile_of_nul {files : Files} {path : Path} (nul : path.hasNul = true) :
    files.isFile path ≠ .ok true := by
  rw [isFile, locate_eq_badName_iff.2 nul]
  simp [FileProblem.meansAbsent]

namespace ConfigFile

/-- Contents that are no document, and what is raised for them where they are not told to be
malformed. Of bytes that are no text the pieces before the first bad one count. -/
inductive Spoilt (reader : Yaml.Reader) (name : String) (bytes : List UInt8) : Failure → Prop
  | undecoded (broken : Given.utf8? bytes = none) (sound : reader.early bytes = none) :
      Spoilt reader name bytes .unreadableText
  | early {defect : Yaml.Defect} (broken : Given.utf8? bytes = none)
      (spoilt : reader.early bytes = some defect) (formed : defect ≠ .malformed) :
      Spoilt reader name bytes (failureOf name defect)
  | unmade {text : String} {defect : Yaml.Defect} (decoded : Given.utf8? bytes = some text)
      (spoilt : Yaml.documentOf reader (Text.unifyLineEnds text.toList) = .error defect)
      (formed : defect ≠ .malformed) : Spoilt reader name bytes (failureOf name defect)

variable {files : Files} {reader : Yaml.Reader} {e : Failure}

theorem failureOf_ne_refused {name : String} {defect : Yaml.Defect} (formed : defect ≠ .malformed)
    (cause : Cause) : failureOf name defect ≠ .refused cause := by
  cases defect with
  | malformed => exact absurd rfl formed
  | unreadable | overflow | unknownWord | emptyNumber | notATime | wrongType | tooDeep =>
    simp [failureOf]

theorem Spoilt.ne_refused {name : String} {bytes : List UInt8}
    (spoilt : Spoilt reader name bytes e) (cause : Cause) : e ≠ .refused cause := by
  cases spoilt with
  | undecoded broken sound => simp
  | early broken spoilt formed => exact failureOf_ne_refused formed cause
  | unmade decoded spoilt formed => exact failureOf_ne_refused formed cause

theorem untold_lookUp_iff {text : String} :
    Untold (lookUp files text) e ↔ Unfound files text e := by
  rw [← lookUp_eq_error_iff]
  constructor
  · exact fun untold => untold.1
  · intro failed
    rw [failed, untold_error_iff (lookUp_eq_error_iff.1 failed).ne_refused]

theorem untold_find_iff {named : Option String} {fallback : String} :
    Untold (find files named fallback) e ↔
      Unfound files ((named.filter (· != "")).getD fallback) e := by
  rw [← untold_lookUp_iff, ← find_filter]
  cases chosen : named.filter (· != "") with
  | none =>
    rw [find_of_unnamed, untold_bind]
    have found (path : Path) (found : Bool) := Told.not_untold
      (.done (if found then some path else none)) e
    simp [found]
  | some text =>
    have nonempty : text ≠ "" := by simpa using (Option.filter_eq_some_iff.1 chosen).2
    rw [find_of_named nonempty, untold_bind]
    have found (path : Path) (found : Bool) : ¬ Untold (if found then Except.ok (some path)
        else .error (.refused (.noConfigFile path.toText))) e := by
      refine Told.not_untold ?_ e
      split
      next => exact .done _
      next => exact .refused rfl
    simp [found]

theorem untold_documentIn_iff {name : String} {bytes : List UInt8} :
    Untold (documentIn reader name bytes) e ↔ Spoilt reader name bytes e := by
  constructor
  · rintro ⟨failed, untold⟩
    rw [failed] at untold
    -- Nothing is untold about a malformed document.
    have formed {defect : Yaml.Defect} (same : e = failureOf name defect) :
        defect ≠ .malformed := by
      rintro rfl
      rw [same] at untold
      exact untold (.refused rfl)
    unfold documentIn at failed
    split at failed
    next broken =>
      cases early : reader.early bytes with
      | none =>
        simp only [early, Option.map_none, Option.getD_none, Except.error.injEq] at failed
        exact failed ▸ .undecoded broken early
      | some defect =>
        simp only [early, Option.map_some, Option.getD_some, Except.error.injEq] at failed
        exact failed ▸ .early broken early (formed failed.symm)
    next text decoded =>
      cases made : Yaml.documentOf reader (Text.unifyLineEnds text.toList) with
      | ok document => simp [made, Except.mapError] at failed
      | error defect =>
        simp only [made, Except.mapError, Except.error.injEq] at failed
        exact failed ▸ .unmade decoded made (formed failed.symm)
  · intro spoilt
    suffices failed : documentIn reader name bytes = .error e by
      rw [failed, untold_error_iff spoilt.ne_refused]
    cases spoilt with
    | undecoded broken sound => simp [documentIn, broken, sound]
    | early broken spoilt formed => simp [documentIn, broken, spoilt]
    | unmade decoded spoilt formed => simp [documentIn, decoded, spoilt, Except.mapError]

theorem Spoilt.blamed {name : String} {bytes : List UInt8} (spoilt : Spoilt reader name bytes e) :
    Given.utf8? bytes = none ∧
        (e = .unreadableText ∨ ∃ defect, reader.early bytes = some defect ∧ defect ≠ .malformed ∧
          e = failureOf name defect) ∨
      ∃ text defect, Given.utf8? bytes = some text ∧ defect ≠ .malformed ∧
        Yaml.Blamed reader (Text.unifyLineEnds text.toList) defect ∧ e = failureOf name defect := by
  cases spoilt with
  | undecoded broken sound => exact .inl ⟨broken, .inl rfl⟩
  | early broken spoilt formed => exact .inl ⟨broken, .inr ⟨_, spoilt, formed, rfl⟩⟩
  | unmade decoded spoilt formed =>
    exact .inr ⟨_, _, decoded, formed, Yaml.blamed_of_documentOf spoilt, rfl⟩

def readDocument (name : String) : Yaml.Document → Except Failure Layer
  | .empty => .ok []
  | .other v => .error (.refused (.configNotMapping name v.typeName))
  | .mapping entries =>
    (layerOf entries).mapError fun faults => .refused (.invalidConfig name faults)

theorem load_of_read {path : Path} {bytes : List UInt8} (found : files.read path = .ok bytes) :
    load files path =
      (documentIn files.reader path.toText bytes).bind (readDocument path.toText) := by
  simp only [load, found]
  match made : documentIn files.reader path.toText bytes with
  | .error e => rfl
  | .ok .empty => rfl
  | .ok (.other v) => rfl
  | .ok (.mapping entries) =>
    cases read : layerOf entries <;> simp [Except.bind, Except.mapError, readDocument, read]

theorem told_readDocument (name : String) (document : Yaml.Document) :
    Told (readDocument name document) := by
  cases document with
  | empty => exact .done []
  | other v => exact .refused rfl
  | mapping entries =>
    rw [readDocument]
    cases layerOf entries with
    | ok layer => exact .done layer
    | error faults => exact .refused rfl

theorem untold_load_iff {path : Path} :
    Untold (load files path) e ↔ path.hasNul = true ∧ e = .badValue none ∨
      ∃ bytes, files.read path = .ok bytes ∧ Spoilt files.reader path.toText bytes e := by
  rw [← Files.read_eq_badName_iff]
  cases found : files.read path with
  | error problem =>
    cases problem with
    | badName => simp [load, found, untold_error_iff, eq_comm]
    | notFound | notFolder | isFolder | taken | blocked =>
      have told : Told (load files path) := by
        simp only [load, found]
        exact .refused rfl
      simp [told.not_untold]
  | ok bytes =>
    have finished (document : Yaml.Document) :=
      (told_readDocument path.toText document).not_untold e
    simp [load_of_read found, untold_bind, untold_documentIn_iff, finished]

theorem find_eq_some_iff {named : Option String} {fallback : String} {path : Path} :
    find files named fallback = .ok (some path) ↔
      (Path.ofText ((named.filter (· != "")).getD fallback)).expandHome files.homes = some path ∧
        files.isFile path = .ok true := by
  rw [← lookUp_eq_ok_iff, ← find_filter]
  cases chosen : named.filter (· != "") with
  | none =>
    rw [find_of_unnamed, Option.getD_none]
    match lookUp files fallback with
    | .error e => simp [Except.bind]
    | .ok (other, true) => simp [Except.bind]
    | .ok (other, false) => simp [Except.bind]
  | some text =>
    have nonempty : text ≠ "" := by simpa using (Option.filter_eq_some_iff.1 chosen).2
    rw [find_of_named nonempty, Option.getD_some]
    match lookUp files text with
    | .error e => simp [Except.bind]
    | .ok (other, true) => simp [Except.bind]
    | .ok (other, false) => simp [Except.bind]

end ConfigFile

namespace Inputs

variable {i : Inputs} {e : Failure}

def place (i : Inputs) : String := i.named.getD i.fallback

/-- The ways in which no settings come about and nothing is told. -/
inductive Escapes (i : Inputs) : Failure → Prop
  | unfound {overrides : Environment.Overrides} {e : Failure}
      (loaded : Environment.load i.world.environment = .ok overrides)
      (unfound : ConfigFile.Unfound i.world.files i.place e) : Escapes i e
  | spoilt {overrides : Environment.Overrides} {path : Path} {bytes : List UInt8} {e : Failure}
      (loaded : Environment.load i.world.environment = .ok overrides)
      (expanded : (Path.ofText i.place).expandHome i.world.files.homes = some path)
      (present : i.world.files.isFile path = .ok true)
      (read : i.world.files.read path = .ok bytes)
      (spoilt : ConfigFile.Spoilt i.world.files.reader path.toText bytes e) : Escapes i e

def environment (i : Inputs) : Except Failure Environment.Overrides :=
  (Environment.load i.world.environment).mapError fun faults =>
    .refused (.invalidEnvironment faults)

theorem told_environment (i : Inputs) : Told i.environment := by
  unfold environment
  cases Environment.load i.world.environment with
  | ok overrides => exact .done overrides
  | error faults => exact .refused rfl

theorem told_validated (layer : Layer) : Told (validated layer) := by
  unfold validated
  cases Settings.ofLayer layer with
  | ok s => exact .done s
  | error faults => exact .refused rfl

theorem told_finish (i : Inputs) (overrides : Environment.Overrides) (file : Layer) :
    Told (i.finish overrides file) := by
  unfold finish
  split
  next => exact told_validated _
  next => exact .refused rfl

theorem named_filter (i : Inputs) : i.named.filter (· != "") = i.named := by
  cases named : i.named with
  | none => rfl
  | some text => simp [ne_empty_of_named named]

theorem untold_readFound_iff {found : Option Path} {files : Files} :
    Untold (ConfigFile.readFound files found) e ↔
      ∃ path, found = some path ∧ Untold (ConfigFile.load files path) e := by
  cases found with
  | none => simpa [ConfigFile.readFound] using Told.not_untold (.done []) e
  | some path => simp [ConfigFile.readFound]

/-- Of the stages only the search for the file and the reading of it can end untold. -/
theorem untold_resolve_iff : Untold i.resolve e ↔ i.Escapes e := by
  cases loaded : Environment.load i.world.environment with
  | error faults =>
    rw [resolve_of_unread loaded]
    constructor
    · intro untold
      exact absurd untold (Told.not_untold (.refused rfl) e)
    · intro escapes
      cases escapes with
      | unfound other => simp [loaded] at other
      | spoilt other => simp [loaded] at other
  | ok overrides =>
    rw [resolve_of_loaded loaded]
    have finished (file : Layer) := (told_finish i overrides file).not_untold e
    simp only [untold_bind, ConfigFile.untold_find_iff, untold_readFound_iff, finished,
      and_false, exists_false, or_false, named_filter]
    constructor
    · rintro (unfound | ⟨_, found, path, rfl, untold⟩)
      · exact .unfound loaded unfound
      · obtain ⟨expanded, present⟩ := ConfigFile.find_eq_some_iff.1 found
        rw [named_filter] at expanded
        obtain ⟨nul, _⟩ | ⟨_, read, spoilt⟩ := ConfigFile.untold_load_iff.1 untold
        · exact absurd present (Files.isFile_of_nul nul)
        · exact .spoilt loaded expanded present read spoilt
    · intro escapes
      cases escapes with
      | unfound _ unfound => exact .inl unfound
      | spoilt _ expanded present read spoilt =>
        refine .inr ⟨_, ConfigFile.find_eq_some_iff.2 ⟨?_, present⟩, _, rfl, ?_⟩
        · rw [named_filter]
          exact expanded
        · exact ConfigFile.untold_load_iff.2 (.inr ⟨_, read, spoilt⟩)

/-- Neither a step of resolving settings nor the whole of it fails untold. -/
structure AlwaysTold (i : Inputs) (path : Path) (layer : Layer) : Prop where
  environment : Told i.environment
  found : Told (ConfigFile.find i.world.files i.named i.fallback)
  loaded : Told (ConfigFile.load i.world.files path)
  validated : Told (validated layer)
  resolved : Told i.resolve

theorem Escapes.ne_refused (escapes : i.Escapes e) (cause : Cause) : e ≠ .refused cause := by
  cases escapes with
  | unfound loaded unfound => exact unfound.ne_refused cause
  | spoilt loaded expanded present read spoilt => exact spoilt.ne_refused cause

theorem escapes_iff : i.Escapes e ↔ i.resolve = .error e ∧ ∀ cause, e ≠ .refused cause := by
  rw [← untold_resolve_iff]
  constructor
  · intro untold
    exact ⟨untold.1, (untold_resolve_iff.1 untold).ne_refused⟩
  · rintro ⟨failed, other⟩
    rw [failed]
    exact (untold_error_iff other).2 rfl

theorem category_of_resolve {cause : Cause} (refused : i.resolve = .error (.refused cause)) :
    cause.category = .config := by
  have told : Told i.resolve := by
    refine told_iff.2 fun e untold => ?_
    -- What escapes is never a refusal, and the only error here is one.
    have same := Except.error.inj (refused.symm.trans untold.1)
    exact (untold_resolve_iff.1 untold).ne_refused cause same.symm
  rw [refused] at told
  cases told with
  | refused config => exact config

theorem told_find_iff :
    Told (ConfigFile.find i.world.files i.named i.fallback) ↔ i.Searchable i.place := by
  simp only [told_iff, ConfigFile.untold_find_iff, named_filter]
  constructor
  · intro none
    exact (i.searchable_or_unfound i.place).resolve_right fun ⟨e, unfound⟩ => none e unfound
  · rintro ⟨path, found, expanded, looked⟩ e unfound
    have looked := ConfigFile.lookUp_eq_ok_iff.2 ⟨expanded, looked⟩
    cases looked.symm.trans (ConfigFile.lookUp_eq_error_iff.2 unfound)

theorem told_load_iff {files : Files} {path : Path} : Told (ConfigFile.load files path) ↔
    path.hasNul = false ∧ ∀ bytes e, files.read path = .ok bytes →
      ¬ ConfigFile.Spoilt files.reader path.toText bytes e := by
  simp only [told_iff, ConfigFile.untold_load_iff]
  constructor
  · intro none
    refine ⟨?_, fun bytes e read spoilt => none e (.inr ⟨bytes, read, spoilt⟩)⟩
    exact Bool.eq_false_iff.2 fun nul => none _ (.inl ⟨nul, rfl⟩)
  · rintro ⟨named, sound⟩ e (⟨nul, _⟩ | ⟨bytes, read, spoilt⟩)
    · exact Bool.eq_false_iff.1 named nul
    · exact sound bytes e read spoilt

def undecodableFile : Inputs :=
  { world := ⟨.ofHome "/home" [(["home", ".backupctl.yaml"], .file [0xff])], []⟩ }

theorem undecodableFile_escapes : undecodableFile.Escapes .unreadableText := by
  have loaded : Environment.load undecodableFile.world.environment = .ok ⟨[], none, none⟩ := rfl
  have expanded : (Path.ofText undecodableFile.place).expandHome
      undecodableFile.world.files.homes = some ⟨"/", ["home", ".backupctl.yaml"]⟩ := rfl
  have read : undecodableFile.world.files.read ⟨"/", ["home", ".backupctl.yaml"]⟩ =
      .ok [0xff] := rfl
  have broken : Given.utf8? [0xff] = none := by decide
  exact .spoilt loaded expanded rfl read (.undecoded broken rfl)

end Inputs

end BackupConsole
