import BackupConsole.Settings.Basic

set_option autoImplicit false

namespace BackupConsole

def Settings.defaults : Settings :=
  { serverAddress := "127.0.0.1:10001"
    apiToken := ""
    serverCompressor := "gzip"
    tls := false
    tlsCaFile := ""
    connectTimeout := 10.0
    logLevel := "WARNING"
    logFormat := "console"
    logFile := ""
    backupType := "logical"
    compressionAlgorithm := ""
    encryptionAlgorithm := ""
    description := ""
    storageName := ""
    restoreMetadataFile := ""
    skipUsersAndRoles := false
    verbose := false }

theorem Settings.ofLayer_of_checked {layer : Layer} {s : Settings}
    (checked : ∀ k, layer.checked k = .ok (s.get k)) : Settings.ofLayer layer = .ok s := by
  have accepted : Setting.all.all (fun k => (layer.checked k).isOk) = true := by
    rw [List.all_eq_true]
    intro k _
    rw [checked]
    rfl
  have faultless : Setting.all.filterMap (fun k => faultOf k.name (layer.checked k)) = [] := by
    rw [List.filterMap_eq_nil_iff]
    intro k _
    rw [checked]
    rfl
  unfold Settings.ofLayer
  rw [dif_pos accepted, faultless]
  refine congrArg Except.ok (Settings.ext_get fun k => ?_)
  rw [Settings.get_ofValues]
  split
  next v accepted =>
    rw [checked, Except.ok.injEq] at accepted
    exact accepted.symm
  next refused =>
    rw [checked] at refused
    cases refused

theorem Layer.checked_defaultLayer (k : Setting) :
    defaultLayer.checked k = .ok (Settings.defaults.get k) := by
  cases k <;> rfl

theorem Layer.get?_defaultLayer (k : Setting) :
    defaultLayer.get? k = some (Settings.defaults.given k) := by
  cases k <;> rfl

end BackupConsole
