import BackupConsole.Mapping
import Mathlib.Data.List.Induction
import Mathlib.Data.List.Nodup

set_option autoImplicit false

namespace BackupConsole

variable {κ ν : Type} [BEq κ] [LawfulBEq κ]

theorem eraseDups_concat (ks : List κ) (k : κ) :
    (ks ++ [k]).eraseDups = if ks.contains k then ks.eraseDups else ks.eraseDups ++ [k] := by
  rw [List.eraseDups_append]
  by_cases known : k ∈ ks
  · simp [List.removeAll, known]
  · simp [List.removeAll, known, List.eraseDups_cons]

theorem nodup_eraseDups (ks : List κ) : ks.eraseDups.Nodup := by
  induction ks using List.reverseRecOn with
  | nil => exact List.nodup_nil
  | append_singleton ks k ih =>
    rw [eraseDups_concat]
    split
    next => exact ih
    next fresh =>
      have absent : k ∉ ks.eraseDups := by
        intro member
        exact fresh (List.contains_iff_mem.2 (List.mem_eraseDups.1 member))
      exact List.nodup_append.2 ⟨ih, List.nodup_singleton k, by grind⟩

namespace Mapping

theorem lookup_eq_none_iff {entries : List (κ × ν)} {k : κ} :
    entries.lookup k = none ↔ k ∉ entries.map (·.1) := by
  rw [List.lookup_eq_none_iff]
  constructor
  · intro differ member
    obtain ⟨entry, listed, rfl⟩ := List.mem_map.1 member
    simpa using differ entry listed
  · intro absent entry listed
    have key : entry.1 ∈ entries.map (·.1) := List.mem_map_of_mem listed
    exact bne_iff_ne.2 fun same => absent (same ▸ key)

theorem keys_insert (entries : List (κ × ν)) (k : κ) (v : ν) :
    (insert (· == ·) entries k v).map (·.1) =
      if (entries.map (·.1)).contains k then entries.map (·.1) else entries.map (·.1) ++ [k] := by
  induction entries with
  | nil => rfl
  | cons entry rest ih =>
    obtain ⟨j, w⟩ := entry
    by_cases same : j = k
    · subst same
      simp [insert]
    · have differ : (k == j) = false := by simpa using fun h : k = j => same h.symm
      have unequal : (j == k) = false := by simpa using same
      simp only [insert, unequal, Bool.false_eq_true, if_false, List.map_cons, List.contains_cons,
        differ, Bool.false_or, ih]
      split <;> rfl

omit [BEq κ] [LawfulBEq κ] in
theorem ofPairs_concat (same : κ → κ → Bool) (pairs : List (κ × ν)) (pair : κ × ν) :
    ofPairs same (pairs ++ [pair]) = insert same (ofPairs same pairs) pair.1 pair.2 := by
  simp [ofPairs]

theorem keys_ofPairs (pairs : List (κ × ν)) :
    (ofPairs (· == ·) pairs).map (·.1) = (pairs.map (·.1)).eraseDups := by
  induction pairs using List.reverseRecOn with
  | nil => rfl
  | append_singleton pairs pair ih =>
    obtain ⟨k, v⟩ := pair
    have known : (pairs.map (·.1)).eraseDups.contains k = (pairs.map (·.1)).contains k := by
      rw [Bool.eq_iff_iff]
      simp only [List.contains_iff_mem, List.mem_eraseDups]
    rw [ofPairs_concat, keys_insert, ih, known, List.map_append, List.map_singleton,
      eraseDups_concat]

theorem lookup_eq_some_iff_mem {entries : List (κ × ν)} (distinct : (entries.map (·.1)).Nodup)
    {k : κ} {v : ν} : entries.lookup k = some v ↔ (k, v) ∈ entries := by
  induction entries with
  | nil => simp
  | cons entry rest ih =>
    obtain ⟨j, w⟩ := entry
    obtain ⟨fresh, distinct⟩ := List.nodup_cons.1 distinct
    rw [lookup_cons_eq_ite, List.mem_cons, ← ih distinct]
    by_cases same : k = j
    · subst same
      simp [lookup_eq_none_iff.2 fresh, eq_comm]
    · simp [same]

theorem lastValue?_eq_some_iff {pairs : List (κ × ν)} {k : κ} {v : ν} :
    lastValue? (· == ·) pairs k = some v ↔
      ∃ before after, pairs = before ++ (k, v) :: after ∧ ∀ later ∈ after, later.1 ≠ k := by
  unfold lastValue?
  constructor
  · intro found
    obtain ⟨⟨j, w⟩, first, rfl⟩ := Option.map_eq_some_iff.1 found
    obtain ⟨same, after, before, split, others⟩ := List.find?_eq_some_iff_append.1 first
    cases beq_iff_eq.1 same
    refine ⟨before.reverse, after.reverse, ?_, ?_⟩
    · rw [← List.reverse_reverse pairs, split]
      simp
    · intro later member
      simpa using others later (List.mem_reverse.1 member)
  · rintro ⟨before, after, rfl, others⟩
    have first : (before ++ (k, v) :: after).reverse.find? (fun entry => entry.1 == k) =
        some (k, v) := by
      rw [List.find?_eq_some_iff_append]
      refine ⟨by simp, after.reverse, before.reverse, by simp, ?_⟩
      intro later member
      simpa using others later (List.mem_reverse.1 member)
    rw [first]
    rfl

theorem lastValue?_map_eq_some_iff {α : Type} {items : List α} {key : α → κ} {value : α → ν}
    {k : κ} {v : ν} :
    lastValue? (· == ·) (items.map fun a => (key a, value a)) k = some v ↔
      ∃ before a after, items = before ++ a :: after ∧ key a = k ∧ value a = v ∧
        ∀ later ∈ after, key later ≠ k := by
  rw [lastValue?_eq_some_iff]
  constructor
  · rintro ⟨before, after, split, others⟩
    obtain ⟨earlier, rest, rfl, rfl, tail⟩ := List.map_eq_append_iff.1 split
    obtain ⟨last, later, rfl, same, rfl⟩ := List.map_eq_cons_iff.1 tail
    cases same
    refine ⟨earlier, last, later, rfl, rfl, rfl, ?_⟩
    intro a member
    exact others _ (List.mem_map_of_mem member)
  · rintro ⟨before, a, after, rfl, rfl, rfl, others⟩
    refine ⟨_, _, List.map_append, ?_⟩
    intro entry member
    obtain ⟨later, behind, rfl⟩ := List.mem_map.1 member
    exact others later behind

omit [BEq κ] [LawfulBEq κ] in
theorem lastValue?_append (same : κ → κ → Bool) (before after : List (κ × ν)) (k : κ) :
    lastValue? same (before ++ after) k =
      (lastValue? same after k).or (lastValue? same before k) := by
  simp only [lastValue?, List.reverse_append, List.find?_append]
  cases List.find? (fun entry => same entry.1 k) after.reverse <;> rfl

theorem lastValue?_eq_none_iff {pairs : List (κ × ν)} {k : κ} :
    lastValue? (· == ·) pairs k = none ↔ ∀ pair ∈ pairs, pair.1 ≠ k := by
  simp [lastValue?]

omit [BEq κ] [LawfulBEq κ] in
theorem insert_map {ρ : Type} (same : κ → κ → Bool) (f : ν → ρ) (entries : List (κ × ν)) (k : κ)
    (v : ν) :
    insert same (entries.map fun entry => (entry.1, f entry.2)) k (f v) =
      (insert same entries k v).map fun entry => (entry.1, f entry.2) := by
  induction entries with
  | nil => rfl
  | cons entry rest ih =>
    obtain ⟨j, w⟩ := entry
    by_cases known : same j k = true <;> simp [insert, known, ih]

omit [BEq κ] [LawfulBEq κ] in
theorem ofPairs_map {ρ : Type} (same : κ → κ → Bool) (f : ν → ρ) (pairs : List (κ × ν)) :
    ofPairs same (pairs.map fun pair => (pair.1, f pair.2)) =
      (ofPairs same pairs).map fun entry => (entry.1, f entry.2) := by
  induction pairs using List.reverseRecOn with
  | nil => rfl
  | append_singleton pairs pair ih =>
    rw [List.map_append, List.map_singleton, ofPairs_concat, ih, ofPairs_concat, insert_map]

end Mapping

end BackupConsole
