import BackupConsole.Mapping
import BackupConsole.Proofs.Settings.Defaults

set_option autoImplicit false

namespace BackupConsole

theorem Mapping.lastValue?_cons {κ ν : Type} (same : κ → κ → Bool) (j : κ) (v : ν)
    (rest : List (κ × ν)) (k : κ) :
    lastValue? same ((j, v) :: rest) k =
      (lastValue? same rest k).or (if same j k then some v else none) := by
  simp only [lastValue?, List.reverse_cons, List.find?_append, List.find?_singleton]
  cases List.find? (fun x => same x.1 k) rest.reverse <;> cases same j k <;> rfl

namespace Layer

theorem get?_update (below above : Layer) (k : Setting) :
    (below.update above).get? k =
      (Mapping.lastValue? (· == ·) above k).or (below.get? k) := by
  induction above generalizing below with
  | nil => rfl
  | cons entry rest ih =>
    obtain ⟨j, v⟩ := entry
    have step : below.update ((j, v) :: rest) = (below.set j v).update rest := rfl
    -- The rest of the upper layer comes before this entry, and this before the lower layer.
    rw [step, ih, get?_set, Mapping.lastValue?_cons, Option.or_assoc]
    by_cases same : j = k <;> simp [same]

def Unique (layer : Layer) : Prop := (layer.map (·.1)).Nodup

theorem get?_eq_none_of_not_mem {layer : Layer} {k : Setting} (absent : k ∉ layer.map (·.1)) :
    layer.get? k = none := by
  induction layer with
  | nil => rfl
  | cons entry rest ih =>
    obtain ⟨j, v⟩ := entry
    rw [List.map_cons, List.mem_cons, not_or] at absent
    rw [get?, if_neg (Ne.symm absent.1), ih absent.2]

theorem lastValue?_of_unique {layer : Layer} (unique : layer.Unique) (k : Setting) :
    Mapping.lastValue? (· == ·) layer k = layer.get? k := by
  induction layer with
  | nil => rfl
  | cons entry rest ih =>
    obtain ⟨j, v⟩ := entry
    obtain ⟨fresh, unique⟩ := List.nodup_cons.1 unique
    rw [Mapping.lastValue?_cons, ih unique, get?]
    by_cases same : j = k
    · subst same
      simp [get?_eq_none_of_not_mem fresh]
    · simp [same]

theorem mem_set {layer : Layer} {k j : Setting} {v : Given}
    (present : j ∈ (layer.set k v).map (·.1)) : j = k ∨ j ∈ layer.map (·.1) := by
  induction layer with
  | nil => simpa [set] using present
  | cons entry rest ih =>
    obtain ⟨i, w⟩ := entry
    by_cases same : i = k
    · simp_all [set]
    · simp only [set, if_neg same, List.map_cons, List.mem_cons] at present ⊢
      rcases present with here | later
      · exact .inr (.inl here)
      · rcases ih later with new | old
        · exact .inl new
        · exact .inr (.inr old)

theorem unique_set {layer : Layer} (unique : layer.Unique) (k : Setting) (v : Given) :
    (layer.set k v).Unique := by
  induction layer with
  | nil => simp [Unique, set]
  | cons entry rest ih =>
    obtain ⟨j, w⟩ := entry
    obtain ⟨fresh, unique⟩ := List.nodup_cons.1 unique
    by_cases same : j = k
    · subst same
      rw [set, if_pos rfl]
      exact List.nodup_cons.2 ⟨fresh, unique⟩
    · rw [set, if_neg same]
      refine List.nodup_cons.2 ⟨fun present => ?_, ih unique⟩
      rcases mem_set present with new | old
      · exact same new
      · exact fresh old

def ofValues (settings : List Setting) (value? : Setting → Option Given) : Layer :=
  settings.filterMap fun k => (value? k).map fun g => (k, g)

theorem mem_ofValues {settings : List Setting} {value? : Setting → Option Given} {k : Setting}
    (present : k ∈ (ofValues settings value?).map (·.1)) : k ∈ settings := by
  simp only [ofValues, List.mem_map, List.mem_filterMap, Option.map_eq_some_iff] at present
  obtain ⟨_, ⟨j, listed, g, _, rfl⟩, rfl⟩ := present
  exact listed

theorem unique_ofValues {settings : List Setting} (distinct : settings.Nodup)
    (value? : Setting → Option Given) : (ofValues settings value?).Unique := by
  induction settings with
  | nil => exact List.nodup_nil
  | cons k rest ih =>
    obtain ⟨fresh, distinct⟩ := List.nodup_cons.1 distinct
    have later := ih distinct
    cases given : value? k with
    | none => simpa [ofValues, given] using later
    | some g =>
      simp only [ofValues, List.filterMap_cons, given, Option.map_some]
      exact List.nodup_cons.2 ⟨fun present => fresh (mem_ofValues present), later⟩

theorem get?_ofValues (settings : List Setting) (value? : Setting → Option Given) (k : Setting) :
    (ofValues settings value?).get? k = if k ∈ settings then value? k else none := by
  induction settings with
  | nil => rfl
  | cons j rest ih =>
    unfold ofValues at ih ⊢
    by_cases same : j = k
    · subst same
      cases given : value? j <;> simp [given, get?, ih]
    · cases given : value? j <;> simp [given, get?, ih, same, Ne.symm same]

end Layer

theorem Settings.ofLayer_of_flawed {layer : Layer}
    (flawed : ¬ ∀ k, ∃ v, layer.checked k = .ok v) :
    Settings.ofLayer layer =
      .error (Setting.all.filterMap fun k => faultOf k.name (layer.checked k)) := by
  have refused : ¬ Setting.all.all (fun k => (layer.checked k).isOk) = true := by
    intro accepted
    refine flawed fun k => ?_
    have accepted := List.all_eq_true.1 accepted k (Setting.mem_all k)
    cases checked : layer.checked k with
    | ok v => exact ⟨v, rfl⟩
    | error flaw => simp [checked, Except.isOk, Except.toBool] at accepted
  unfold Settings.ofLayer
  rw [dif_neg refused, List.map_nil, List.append_nil]

theorem Settings.ofLayer_congr {a b : Layer} (agree : ∀ k, a.get? k = b.get? k) :
    Settings.ofLayer a = Settings.ofLayer b := by
  have checked : a.checked = b.checked := by
    funext k
    rw [Layer.checked, Layer.checked, agree]
  -- The definition takes the accepted values from its own case split, so they are named here first.
  by_cases accepted : ∀ k, ∃ v, a.checked k = .ok v
  · obtain ⟨value, hvalue⟩ := Classical.axiomOfChoice accepted
    have kept (k : Setting) : a.checked k = .ok ((Settings.ofValues value).get k) := by
      rw [Settings.get_ofValues, hvalue]
    rw [Settings.ofLayer_of_checked kept, Settings.ofLayer_of_checked (checked ▸ kept)]
  · rw [Settings.ofLayer_of_flawed accepted, Settings.ofLayer_of_flawed (checked ▸ accepted),
      checked]

end BackupConsole
