import BackupConsole.Settings.Basic

set_option autoImplicit false

namespace BackupConsole

def Settings.Made (s : Settings) : Prop :=
  ∃ layer strangers, Settings.ofLayer layer strangers = .ok s

theorem Settings.checked_of_ofLayer {layer : Layer} {strangers : List String} {s : Settings}
    (made : Settings.ofLayer layer strangers = .ok s) (k : Setting) :
    layer.checked k = .ok (s.get k) := by
  unfold Settings.ofLayer at made
  simp only at made
  split at made
  next accepted =>
    split at made
    next faultless =>
      cases made
      rw [Settings.get_ofValues]
      split
      next v checked => exact checked
      next flaw refused =>
        have isOk := List.all_eq_true.1 accepted k (Setting.mem_all k)
        rw [refused] at isOk
        cases isOk
    next => cases made
  next => cases made

theorem Settings.Made.accepted {s : Settings} (made : s.Made) (k : Setting) :
    ∃ v : k.Value, k.accept v = .ok (s.get k) := by
  obtain ⟨layer, strangers, made⟩ := made
  have checked := Settings.checked_of_ofLayer made k
  unfold Layer.checked at checked
  split at checked
  next g given =>
    unfold Setting.check at checked
    cases coerced : k.shape.coerce g with
    | error flaw =>
      rw [coerced] at checked
      cases checked
    | ok v =>
      rw [coerced] at checked
      exact ⟨v, checked⟩
  next => cases checked

theorem Settings.Made.compressor {s : Settings} (made : s.Made) :
    s.serverCompressor ∈ Setting.compressors := by
  obtain ⟨v, accepted⟩ := made.accepted .serverCompressor
  simp only [Setting.accept] at accepted
  split at accepted
  next listed =>
    cases accepted
    exact List.contains_iff_mem.1 listed
  next => cases accepted

end BackupConsole
