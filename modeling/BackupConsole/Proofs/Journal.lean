import BackupConsole.Journal.Basic
import BackupConsole.Proofs.Certificates
import BackupConsole.Proofs.Settings.Accepted

set_option autoImplicit false

namespace BackupConsole

namespace Files

theorem create_ne_badName (f : Files) (folder : List String) (name : String) (c : Content) :
    (f.create folder name c).2 ≠ .error .badName := by
  unfold create
  split <;> simp

theorem makeFolder_ne_badName (f : Files) (above : List String) (name : String) :
    (f.makeFolder above name).2 ≠ some .badName := by
  have readable := f.follow_ne_badName above [name]
  have made := f.create_ne_badName above name .folder
  unfold makeFolder
  split
  next => simp
  next => simp
  next => split <;> simp_all
  next => simp_all

theorem makeFolders_ne_badName (f : Files) (base parts : List String) :
    (f.makeFolders base parts).2 ≠ some .badName := by
  induction parts with
  | nil => simp [makeFolders]
  | cons name above ih =>
    have readable := f.follow_ne_badName base above.reverse
    unfold makeFolders
    split
    next => exact f.makeFolder_ne_badName _ _
    next =>
      -- The folder above is made first, and the files may be others after that.
      split
      next problem made => simpa [made] using ih
      next made _ =>
        have readable := made.follow_ne_badName base above.reverse
        split
        next => exact made.makeFolder_ne_badName _ _
        next => simp_all
    next => simp_all

theorem openIn_ne_badName (f : Files) (folder : List String) (name : String) :
    (f.openIn folder name).2 ≠ .error .badName := by
  have readable := f.follow_ne_badName folder [name]
  unfold openIn
  split
  next access _ => cases access.writing <;> simp
  next => simp
  next => exact f.create_ne_badName folder name (.file [])
  next => simp_all

theorem openForAppend_eq_badName_iff {f : Files} {p : Path} :
    (f.openForAppend p).2 = .error .badName ↔ p.parent.hasNul = true ∨
      p.hasNul = true ∧ (f.makeFolders (f.start p) p.parent.parts.reverse).2 = none := by
  have foldersNamed := f.makeFolders_ne_badName (f.start p) p.parent.parts.reverse
  unfold openForAppend
  by_cases above : p.parent.hasNul = true
  · simp [above]
  · rw [if_neg above]
    match made : f.makeFolders (f.start p) p.parent.parts.reverse with
    | (others, some problem) => simp_all
    | (others, none) =>
      by_cases nul : p.hasNul = true
      · simp [nul]
      · have readable := others.follow_ne_badName (others.start p) p.parent.parts
        simp only [above, nul, Bool.false_eq_true, if_false, false_and, or_false, iff_false]
        split
        next => simp
        next => exact others.openIn_ne_badName _ _
        next => simp_all

end Files

namespace Journal

/-- Why a log file that is asked for cannot be opened. -/
inductive Unopened (files : Files) (name : String) : Failure → Prop
  | homeless (asked : name ≠ "") (unknown : (Path.ofText name).expandHome files.homes = none) :
      Unopened files name (ConfigFile.homeless (Path.ofText name))
  | unnamed {path : Path} (asked : name ≠ "")
      (expanded : (Path.ofText name).expandHome files.homes = some path)
      (nul : path.parent.hasNul = true ∨ path.hasNul = true ∧
        (files.makeFolders (files.start path) path.parent.parts.reverse).2 = none) :
      Unopened files name (.badValue none)
  | unusable {path : Path} {problem : FileProblem} (asked : name ≠ "")
      (expanded : (Path.ofText name).expandHome files.homes = some path)
      (failed : (files.openForAppend path).2 = .error problem) (named : problem ≠ .badName) :
      Unopened files name (.unusableFile problem path.toText)

theorem openFile_of_unknown {files : Files} {name : String} (asked : name ≠ "")
    (unknown : (Path.ofText name).expandHome files.homes = none) :
    (openFile files name).2 = .error (ConfigFile.homeless (Path.ofText name)) := by
  simp only [openFile, ConfigFile.expand, asked, unknown, if_false]

theorem openFile_of_expanded {files : Files} {name : String} {path : Path} (asked : name ≠ "")
    (expanded : (Path.ofText name).expandHome files.homes = some path) :
    (openFile files name).2 = match (files.openForAppend path).2 with
      | .ok place => .ok (some place)
      | .error .badName => .error (.badValue none)
      | .error problem => .error (.unusableFile problem path.toText) := by
  simp only [openFile, ConfigFile.expand, asked, expanded, if_false]
  split <;> simp_all

theorem openFile_eq_error_iff {files : Files} {name : String} {e : Failure} :
    (openFile files name).2 = .error e ↔ Unopened files name e := by
  constructor
  · intro failed
    by_cases blank : name = ""
    · simp [openFile, blank] at failed
    · cases expanded : (Path.ofText name).expandHome files.homes with
      | none =>
        cases (openFile_of_unknown blank expanded).symm.trans failed
        exact .homeless blank expanded
      | some path =>
        rw [openFile_of_expanded blank expanded] at failed
        split at failed
        next => cases failed
        next opened =>
          cases failed
          exact .unnamed blank expanded (Files.openForAppend_eq_badName_iff.1 opened)
        next problem named opened =>
          cases failed
          exact .unusable blank expanded opened named
  · intro unopened
    cases unopened with
    | homeless asked unknown => exact openFile_of_unknown asked unknown
    | unnamed asked expanded nul =>
      rw [openFile_of_expanded asked expanded, Files.openForAppend_eq_badName_iff.2 nul]
    | unusable asked expanded failed named =>
      rw [openFile_of_expanded asked expanded, failed]
      split <;> simp_all

theorem hasRank {s : Settings} (made : s.Made) :
    ∃ threshold, thresholds.lookup (Setting.upperLevel s.logLevel) = some threshold := by
  obtain ⟨v, accepted⟩ := made.accepted .logLevel
  simp only [Setting.accept] at accepted
  split at accepted
  next listed =>
    have ranked : ∀ level ∈ Setting.levels,
        (thresholds.lookup (Setting.upperLevel level)).isSome = true := by decide
    have same : Setting.upperLevel v = s.logLevel := Except.ok.inj accepted
    rw [← same]
    exact Option.isSome_iff_exists.1 (ranked _ (List.contains_iff_mem.1 listed))
  next => cases accepted

theorem setUp_eq_error_iff {s : Settings} (made : s.Made) {files : Files} {j : Journal}
    {e : Failure} :
    (setUp files j (.ofSettings s)).2.2 = .error e ↔ Unopened files s.logFile e := by
  rw [← openFile_eq_error_iff]
  obtain ⟨threshold, ranked⟩ := hasRank made
  unfold setUp Options.ofSettings
  simp only [ranked]
  split
  next unopened => simp [unopened]
  next opened => simp [opened]

end Journal

end BackupConsole
