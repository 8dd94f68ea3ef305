import BackupConsole.Proofs.Channel
import BackupConsole.Proofs.Settings.Sources

set_option autoImplicit false

namespace BackupConsole

theorem Files.look_ne_badName (f : Files) (place : List String) :
    f.look place ≠ .error .badName := by
  unfold look
  split <;> simp

theorem Files.enter_ne_badName (name : String) (c : Content) :
    enter name c ≠ .error .badName := by
  unfold enter
  (repeat' split) <;> simp

theorem Files.follow_ne_badName (f : Files) (place parts : List String) :
    f.follow place parts ≠ .error .badName := by
  induction parts generalizing place with
  | nil => exact fun failed => f.look_ne_badName place (map_eq_error failed)
  | cons part rest ih =>
    intro failed
    obtain unseen | ⟨c, _, failed⟩ := bind_eq_error failed
    · exact f.look_ne_badName place unseen
    · obtain closed | ⟨_, _, failed⟩ := bind_eq_error failed
      · exact enter_ne_badName part c closed
      · exact ih _ failed

theorem Files.locate_eq_badName_iff {f : Files} {p : Path} :
    f.locate p = .error .badName ↔ p.hasNul = true := by
  unfold locate
  by_cases nul : p.hasNul = true
  · simp [nul]
  · rw [if_neg nul]
    split
    · simp [nul]
    · simp [nul, f.follow_ne_badName]

theorem Files.read_eq_badName_iff {f : Files} {p : Path} :
    f.read p = .error .badName ↔ p.hasNul = true := by
  rw [← Files.locate_eq_badName_iff (f := f)]
  unfold read
  match f.locate p with
  | .ok (_, .file _ access) => cases h : access.reading <;> simp [h]
  | .ok (_, .folder access) => cases h : access.reading <;> simp [h]
  | .error problem => simp

def certificatePath (file : String) : String :=
  if file = "" then defaultCertificatePath else file

/-- The path of the certificate file can be asked of the file system. -/
def CertificateNamed (files : Files) (file : String) : Prop :=
  ∃ path, ConfigFile.expand files (certificatePath file) = .ok path ∧ path.hasNul = false

def Trusted (files : Files) (file : String) (roots : List UInt8) : Prop :=
  (∃ path, ConfigFile.expand files (certificatePath file) = .ok path ∧
    files.read path = .ok roots) ∧
  ∃ before after, roots = before ++ certificateMarker ++ after

inductive Loads (files : Files) (file : String) : Except Failure (List UInt8) → Prop
  | homeless {e : Failure} (unexpanded : ConfigFile.expand files (certificatePath file) = .error e)
      (foreign : ∀ cause, e ≠ .refused cause) : Loads files file (.error e)
  | unnamed {path : Path} (expanded : ConfigFile.expand files (certificatePath file) = .ok path)
      (nul : path.hasNul = true) : Loads files file (.error (.badValue none))
  | unreadable {path : Path} {problem : FileProblem}
      (expanded : ConfigFile.expand files (certificatePath file) = .ok path)
      (named : path.hasNul = false) (unread : files.read path = .error problem) :
      Loads files file (.error (.refused (.unreadableCertificates path.toText problem)))
  | unmarked {path : Path} {bytes : List UInt8}
      (expanded : ConfigFile.expand files (certificatePath file) = .ok path)
      (named : path.hasNul = false) (read : files.read path = .ok bytes)
      (bare : ¬ ∃ before after, bytes = before ++ certificateMarker ++ after) :
      Loads files file (.error (.refused (.noCertificate path.toText)))
  | trusted {roots : List UInt8} (trusted : Trusted files file roots) : Loads files file (.ok roots)

theorem ConfigFile.eq_homeless_of_expand {files : Files} {text : String} {e : Failure}
    (failed : expand files text = .error e) : e = homeless (Path.ofText text) := by
  simp only [expand] at failed
  split at failed <;> cases failed
  rfl

theorem loadCertificates_eq (files : Files) (file : String) :
    loadCertificates files file =
      ConfigFile.expand files (certificatePath file) >>= fun path =>
        match files.read path with
        | .error .badName => .error (.badValue none)
        | .error problem => .error (.refused (.unreadableCertificates path.toText problem))
        | .ok bytes =>
          if containsBytes certificateMarker bytes then .ok bytes
          else .error (.refused (.noCertificate path.toText)) := rfl

theorem loads (files : Files) (file : String) : Loads files file (loadCertificates files file) := by
  rw [loadCertificates_eq]
  cases expanded : ConfigFile.expand files (certificatePath file) with
  | error e =>
    refine .homeless expanded fun cause => ?_
    rw [ConfigFile.eq_homeless_of_expand expanded]
    exact ConfigFile.homeless_ne_refused _ cause
  | ok path =>
    simp only [bind, Except.bind]
    have nul := Files.read_eq_badName_iff (f := files) (p := path)
    split
    next unread => exact .unnamed expanded (nul.1 unread)
    next problem other unread =>
      have named : path.hasNul = false := by
        rw [← Bool.not_eq_true, ← nul, unread]
        simpa using other
      exact .unreadable expanded named unread
    next bytes read =>
      split
      next marked => exact .trusted ⟨⟨path, expanded, read⟩, containsBytes_eq_true_iff.1 marked⟩
      next bare =>
        have named : path.hasNul = false := by
          rw [← Bool.not_eq_true, ← nul, read]
          simp
        exact .unmarked expanded named read fun marked => bare (containsBytes_eq_true_iff.2 marked)

section

variable {files : Files} {file : String}

theorem loadCertificates_eq_ok_iff {roots : List UInt8} :
    loadCertificates files file = .ok roots ↔ Trusted files file roots := by
  constructor
  · intro loaded
    have loads := loads files file
    rw [loaded] at loads
    cases loads with
    | trusted trusted => exact trusted
  · rintro ⟨⟨path, expanded, read⟩, marked⟩
    rw [loadCertificates_eq, expanded]
    simp only [bind, Except.bind, read]
    exact if_pos (containsBytes_eq_true_iff.2 marked)

theorem category_of_loadCertificates {cause : Cause}
    (failed : loadCertificates files file = .error (.refused cause)) :
    cause.category = .credentials := by
  have loads := loads files file
  rw [failed] at loads
  cases loads with
  | homeless unexpanded foreign => exact absurd rfl (foreign cause)
  | unreadable expanded named unread => rfl
  | unmarked expanded named read bare => rfl

theorem loadCertificates_refused_iff {e : Failure}
    (failed : loadCertificates files file = .error e) :
    (∃ cause, e = .refused cause) ↔ CertificateNamed files file := by
  have loads := loads files file
  rw [failed] at loads
  unfold CertificateNamed
  cases loads with
  | homeless unexpanded foreign => simp [unexpanded, foreign]
  | unnamed expanded nul => simp [expanded, nul]
  | unreadable expanded named unread => simp [expanded, named]
  | unmarked expanded named read bare => simp [expanded, named]

end

def Uncredentialed (files : Files) (s : Settings) (e : Failure) : Prop :=
  (∃ compression, channelCompression s.serverCompressor = .ok compression) ∧ s.tls = true ∧
    loadCertificates files s.tlsCaFile = .error e

theorem Uncredentialed.unopened {files : Files} {s : Settings} {e : Failure}
    (failed : Uncredentialed files s e) : channelParams files s = .error e := by
  obtain ⟨⟨compression, supported⟩, secured, unloaded⟩ := failed
  exact channelParams_eq_error_iff.2 (.inr ⟨compression, supported, secured, unloaded⟩)

end BackupConsole
