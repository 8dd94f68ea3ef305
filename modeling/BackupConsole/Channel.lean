import BackupConsole.Call
import BackupConsole.Settings.ConfigFile
import BackupConsole.Stream

set_option autoImplicit false

namespace BackupConsole

def defaultCertificatePath : String := "~/.backupctl/ca.pem"

def certificateMarker : List UInt8 := "-----BEGIN CERTIFICATE-----".toUTF8.toList

def containsBytes (part : List UInt8) : List UInt8 → Bool
  | [] => part.isEmpty
  | b :: rest => part.isPrefixOf (b :: rest) || containsBytes part rest

theorem containsBytes_eq_true_iff {part bs : List UInt8} :
    containsBytes part bs = true ↔ ∃ before after, bs = before ++ part ++ after := by
  induction bs with
  | nil =>
    simp only [containsBytes, List.isEmpty_iff]
    constructor
    · rintro rfl
      exact ⟨[], [], rfl⟩
    · rintro ⟨before, after, h⟩
      simp at h
      exact h.2.1
  | cons b rest ih =>
    simp only [containsBytes, Bool.or_eq_true, List.isPrefixOf_iff_prefix, ih]
    constructor
    · rintro (⟨after, h⟩ | ⟨before, after, h⟩)
      · exact ⟨[], after, by simp [h]⟩
      · exact ⟨b :: before, after, by simp [h]⟩
    · rintro ⟨before, after, h⟩
      cases before with
      | nil => exact .inl ⟨after, by simpa using h.symm⟩
      | cons c before =>
        simp only [List.cons_append, List.cons.injEq] at h
        exact .inr ⟨before, after, h.2⟩

def loadCertificates (files : Files) (file : String) : Except Failure (List UInt8) := do
  let path ← ConfigFile.expand files (if file = "" then defaultCertificatePath else file)
  match files.read path with
  | .error .badName => .error (.badValue none)
  | .error problem => .error (.refused (.unreadableCertificates path.toText problem))
  | .ok bytes =>
    if containsBytes certificateMarker bytes then .ok bytes
    else .error (.refused (.noCertificate path.toText))

def channelCompression (name : String) : Except Cause (Option Compression) :=
  match name with
  | "" => .ok none
  | "none" => .ok none
  | "gzip" => .ok (some .gzip)
  | "deflate" => .ok (some .deflate)
  | name => .error (.unsupportedCompressor name)

/-- What a channel is asked for. Its interceptors count by the shapes of call that they take. -/
def channelParams (files : Files) (s : Settings) : Except Failure ChannelParams := do
  let compression ← (channelCompression s.serverCompressor).mapError .refused
  let shapes := (credentialInterceptors s.apiToken).map Interceptor.shape
  let roots ← if s.tls then (loadCertificates files s.tlsCaFile).map some else pure none
  return { target := s.serverAddress, compression, roots, shapes }

structure Channel where
  params : ChannelParams
  interceptors : List (Interceptor String)

def createChannel (files : Files) (s : Settings) : Except Failure Channel := do
  let params ← channelParams files s
  return { params, interceptors := credentialInterceptors s.apiToken }

/-- How the wait for a ready channel ends, and whether one turn of the event loop is enough. -/
structure Readiness where
  ending : Ending := .complete
  prompt : Bool := true

namespace Channel

variable {α : Type}

def logger : String := "backupctl.client.transport"

/-- The wait for a ready channel. One that is given up is a time-out, and so is one that ends in a
time-out of its own. -/
def await (s : Settings) (readiness : Readiness) : Run Unit :=
  let late : Run Unit := .fail (.refused (.unreachable s.serverAddress s.connectTimeout))
  if (Patience.ofSeconds s.connectTimeout).outlasts readiness.prompt readiness.ending then
    readiness.ending.act.recover fun
      | .raised .timeout _ => some late
      | _ => none
  else late

def use (s : Settings) (readiness : Readiness) (body : Run α) : Run α := do
  Run.log .debug logger "Connecting to backup coordinator"
    [("address", .text s.serverAddress), ("tls", .bool s.tls),
      ("compressor", .text s.serverCompressor)]
  await s readiness
  Run.log .debug logger "Connected to backup coordinator" [("address", .text s.serverAddress)]
  body

def withOpen (files : Files) (s : Settings) (readiness : Readiness)
    (body : List (Interceptor String) → Run α) : Run α := do
  let channel ← Run.ofExcept (createChannel files s)
  Run.emit (.opened channel.params)
  (use s readiness (body channel.interceptors)).andFinally .closed

end Channel

end BackupConsole
