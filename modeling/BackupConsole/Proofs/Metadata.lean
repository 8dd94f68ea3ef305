import BackupConsole.Call
import BackupConsole.Proofs.Keys

set_option autoImplicit false

namespace BackupConsole.Metadata

def keys (m : Metadata) : List String := m.map (·.1)

def entriesOf (m : Metadata) (k : String) : Metadata := m.filter fun (j, _) => j == k

def otherKeys (m : Metadata) : List String := m.keys.eraseDups.filter (· != authorizationKey)

structure Authorized (token : String) (before after : Metadata) : Prop where
  last : ∃ front, after = front ++ [(authorizationKey, "bearer " ++ token)] ∧
    authorizationKey ∉ keys front
  order : ∀ k, k ≠ authorizationKey → after.entriesOf k = before.entriesOf k
  multiplicity : ∀ entry : String × String, entry.1 ≠ authorizationKey →
    after.count entry = before.count entry
  -- Entries stand by their keys already, so that nothing is moved where they are stored again.
  settled : after.grouped = after

theorem entriesOf_append (m n : Metadata) (k : String) :
    entriesOf (m ++ n) k = entriesOf m k ++ entriesOf n k :=
  List.filter_append ..

theorem entriesOf_entriesOf (m : Metadata) (j k : String) :
    entriesOf (entriesOf m j) k = if j = k then entriesOf m k else [] := by
  by_cases same : j = k
  · subst same
    simp [entriesOf]
  · rw [if_neg same, entriesOf, entriesOf, List.filter_filter, List.filter_eq_nil_iff]
    intro entry _ both
    simp only [Bool.and_eq_true, beq_iff_eq] at both
    exact same (both.2.symm.trans both.1)

theorem entriesOf_of_not_mem {m : Metadata} {k : String} (absent : k ∉ m.keys) :
    m.entriesOf k = [] := by
  rw [entriesOf, List.filter_eq_nil_iff]
  intro entry member same
  exact absent (List.mem_map.2 ⟨entry, member, by simpa using same⟩)

theorem mem_keys_of_mem_entriesOf {m : Metadata} {j k : String}
    (member : j ∈ (m.entriesOf k).keys) : j = k := by
  simp only [keys, entriesOf, List.mem_map, List.mem_filter, beq_iff_eq] at member
  obtain ⟨entry, ⟨_, same⟩, rfl⟩ := member
  exact same

theorem mem_keys_of_mem_collected {m : Metadata} {ks : List String} {j : String}
    (member : j ∈ keys (ks.flatMap m.entriesOf)) : j ∈ ks := by
  simp only [keys, List.map_flatMap, List.mem_flatMap] at member
  obtain ⟨k, listed, found⟩ := member
  rw [mem_keys_of_mem_entriesOf found]
  exact listed

theorem entriesOf_collected (m : Metadata) {ks : List String} (nodup : ks.Nodup) (k : String) :
    entriesOf (ks.flatMap m.entriesOf) k = if k ∈ ks then m.entriesOf k else [] := by
  induction ks with
  | nil => rfl
  | cons j rest ih =>
    obtain ⟨fresh, nodup⟩ := List.nodup_cons.1 nodup
    rw [List.flatMap_cons, entriesOf_append, entriesOf_entriesOf, ih nodup]
    by_cases same : j = k
    · subst same
      simp [fresh]
    · simp [same, Ne.symm same]

theorem keys_collected (m : Metadata) {ks : List String} (nodup : ks.Nodup)
    (known : ∀ k ∈ ks, k ∈ m.keys) : (keys (ks.flatMap m.entriesOf)).eraseDups = ks := by
  induction ks with
  | nil => rfl
  | cons k rest ih =>
    obtain ⟨fresh, nodup⟩ := List.nodup_cons.1 nodup
    have later := ih nodup fun j listed => known j (List.mem_cons_of_mem _ listed)
    cases own : m.entriesOf k with
    | nil =>
      obtain ⟨entry, member, same⟩ := List.mem_map.1 (known k List.mem_cons_self)
      have found : entry ∈ m.entriesOf k := List.mem_filter.2 ⟨member, by simpa using same⟩
      rw [own] at found
      cases found
    | cons entry more =>
      -- All entries of `k` have that key, and none of the rest has it.
      have own_keys : ∀ j ∈ keys (entry :: more), j = k := by
        intro j member
        rw [← own] at member
        exact mem_keys_of_mem_entriesOf member
      have first : entry.1 = k := own_keys entry.1 List.mem_cons_self
      have repeated : (keys more).filter (fun j => !j == k) = [] := by
        rw [List.filter_eq_nil_iff]
        intro j member
        simp [own_keys j (List.mem_cons_of_mem _ member)]
      have others : (keys (rest.flatMap m.entriesOf)).filter (fun j => !j == k) =
          keys (rest.flatMap m.entriesOf) := by
        rw [List.filter_eq_self]
        intro j member
        have differ : j ≠ k := fun same => fresh (same ▸ mem_keys_of_mem_collected member)
        simpa using differ
      have split : keys ((k :: rest).flatMap m.entriesOf) =
          k :: (keys more ++ keys (rest.flatMap m.entriesOf)) := by
        rw [List.flatMap_cons, own, ← first]
        simp [keys]
      rw [split, List.eraseDups_cons, List.filter_append, repeated, others, List.nil_append, later]

theorem filter_collected (m : Metadata) (ks : List String) (keep : String → Bool) :
    (ks.flatMap m.entriesOf).filter (fun entry => keep entry.1) =
      (ks.filter keep).flatMap m.entriesOf := by
  induction ks with
  | nil => rfl
  | cons k rest ih =>
    have block : (m.entriesOf k).filter (fun entry => keep entry.1) =
        if keep k then m.entriesOf k else [] := by
      have own_keys : ∀ entry ∈ m.entriesOf k, entry.1 = k := by
        intro entry member
        exact mem_keys_of_mem_entriesOf (List.mem_map_of_mem member)
      split
      next kept =>
        rw [List.filter_eq_self]
        intro entry member
        rw [own_keys entry member, kept]
      next dropped =>
        rw [List.filter_eq_nil_iff]
        intro entry member
        rw [own_keys entry member]
        exact dropped
    rw [List.flatMap_cons, List.filter_append, ih, block, List.filter_cons]
    split <;> rfl

theorem nodup_otherKeys (m : Metadata) : m.otherKeys.Nodup :=
  (nodup_eraseDups _).filter _

theorem mem_otherKeys {m : Metadata} {k : String} :
    k ∈ m.otherKeys ↔ k ∈ m.keys ∧ k ≠ authorizationKey := by
  simp [otherKeys, List.mem_filter, List.mem_eraseDups]

theorem withAuthorization_eq (token : String) (m : Metadata) :
    m.withAuthorization token =
      m.otherKeys.flatMap m.entriesOf ++ [(authorizationKey, "bearer " ++ token)] := by
  have others : m.grouped.filter (fun entry => entry.1 != authorizationKey) =
      m.otherKeys.flatMap m.entriesOf :=
    filter_collected m m.keys.eraseDups (· != authorizationKey)
  rw [withAuthorization, ← others]

theorem authorizationKey_not_mem_others (m : Metadata) :
    authorizationKey ∉ keys (m.otherKeys.flatMap m.entriesOf) := by
  intro member
  exact (mem_otherKeys.1 (mem_keys_of_mem_collected member)).2 rfl

theorem entriesOf_withAuthorization (token : String) (m : Metadata) {k : String}
    (other : k ≠ authorizationKey) : (m.withAuthorization token).entriesOf k = m.entriesOf k := by
  have unauthorized : entriesOf [(authorizationKey, "bearer " ++ token)] k = [] := by
    simp [entriesOf, Ne.symm other]
  rw [withAuthorization_eq, entriesOf_append, unauthorized, List.append_nil,
    entriesOf_collected m m.nodup_otherKeys]
  split
  next => rfl
  next unlisted =>
    have absent : k ∉ m.keys := fun member => unlisted (mem_otherKeys.2 ⟨member, other⟩)
    exact (entriesOf_of_not_mem absent).symm

theorem keys_withAuthorization (token : String) (m : Metadata) :
    (m.withAuthorization token).keys.eraseDups = m.otherKeys ++ [authorizationKey] := by
  have known : ∀ k ∈ m.otherKeys, k ∈ m.keys := fun k listed => (mem_otherKeys.1 listed).1
  have appended : (m.withAuthorization token).keys =
      keys (m.otherKeys.flatMap m.entriesOf) ++ [authorizationKey] := by
    rw [withAuthorization_eq, keys, List.map_append]
    rfl
  have fresh : (keys (m.otherKeys.flatMap m.entriesOf)).contains authorizationKey = false := by
    simpa using m.authorizationKey_not_mem_others
  rw [appended, eraseDups_concat, fresh, keys_collected m m.nodup_otherKeys known]
  rfl

theorem otherKeys_withAuthorization (token : String) (m : Metadata) :
    (m.withAuthorization token).otherKeys = m.otherKeys := by
  rw [otherKeys, keys_withAuthorization, List.filter_append]
  simp [otherKeys, List.filter_filter]

theorem collected_withAuthorization (token : String) (m : Metadata) :
    m.otherKeys.flatMap (m.withAuthorization token).entriesOf =
      m.otherKeys.flatMap m.entriesOf := by
  rw [List.flatMap_def, List.flatMap_def]
  refine congrArg List.flatten (List.map_congr_left fun k listed => ?_)
  exact entriesOf_withAuthorization token m (mem_otherKeys.1 listed).2

theorem withAuthorization_withAuthorization (first second : String) (m : Metadata) :
    (m.withAuthorization first).withAuthorization second = m.withAuthorization second := by
  rw [withAuthorization_eq second (m.withAuthorization first), otherKeys_withAuthorization,
    collected_withAuthorization, ← withAuthorization_eq]

theorem grouped_withAuthorization (token : String) (m : Metadata) :
    (m.withAuthorization token).grouped = m.withAuthorization token := by
  have own : (m.withAuthorization token).entriesOf authorizationKey =
      [(authorizationKey, "bearer " ++ token)] := by
    rw [withAuthorization_eq, entriesOf_append,
      entriesOf_of_not_mem m.authorizationKey_not_mem_others]
    simp [entriesOf]
  calc (m.withAuthorization token).grouped
      = (m.withAuthorization token).keys.eraseDups.flatMap
          (m.withAuthorization token).entriesOf := rfl
    _ = m.otherKeys.flatMap (m.withAuthorization token).entriesOf ++
          (m.withAuthorization token).entriesOf authorizationKey := by
      rw [keys_withAuthorization, List.flatMap_append, List.flatMap_singleton]
    _ = m.withAuthorization token := by
      rw [collected_withAuthorization, own, ← withAuthorization_eq]

theorem count_entriesOf (m : Metadata) (entry : String × String) :
    (m.entriesOf entry.1).count entry = m.count entry :=
  List.count_filter (by simp)

theorem authorized_withAuthorization (token : String) (m : Metadata) :
    Authorized token m (m.withAuthorization token) where
  last := ⟨_, withAuthorization_eq token m, m.authorizationKey_not_mem_others⟩
  order _ other := entriesOf_withAuthorization token m other
  multiplicity entry other := by
    rw [← count_entriesOf, entriesOf_withAuthorization token m other, count_entriesOf]
  settled := grouped_withAuthorization token m

end BackupConsole.Metadata
