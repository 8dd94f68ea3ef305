import BackupConsole.Proofs.Except
import BackupConsole.Proofs.Stream.Collection
import BackupConsole.Proofs.Stream.Release
import Mathlib.Order.Lattice

set_option autoImplicit false

namespace BackupConsole

section Mapping

variable {κ ν : Type} [BEq κ] [EquivBEq κ]

theorem eraseDups_concat_of_equiv (ks : List κ) (k : κ) :
    (ks ++ [k]).eraseDups =
      if ks.eraseDups.any (· == k) then ks.eraseDups else ks.eraseDups ++ [k] := by
  -- By the length of the keys, as what is left after the first one is not the tail.
  match ks with
  | [] => simp [List.eraseDups_cons]
  | j :: rest =>
    have shorter : (rest.filter fun i => !i == j).length < (j :: rest).length := by
      have := List.length_filter_le (fun i => !i == j) rest
      simp only [List.length_cons]
      omega
    have ih := eraseDups_concat_of_equiv (rest.filter fun i => !i == j) k
    by_cases same : (j == k) = true
    · have again : (k == j) = true := BEq.symm same
      simp [List.eraseDups_cons, same, again]
    · have other : (k == j) = false := BEq.symm_false (by simpa using same)
      simp only [List.cons_append, List.eraseDups_cons, List.filter_append, List.filter_cons, other,
        Bool.not_false, if_true, List.filter_nil, ih, List.any_cons, same, Bool.false_or]
      split <;> rfl
termination_by ks.length
decreasing_by exact shorter

namespace Mapping

omit [EquivBEq κ] in
theorem keys_insert_of_equiv (entries : List (κ × ν)) (k : κ) (v : ν) :
    (insert (· == ·) entries k v).map (·.1) =
      if (entries.map (·.1)).any (· == k) then entries.map (·.1)
      else entries.map (·.1) ++ [k] := by
  induction entries with
  | nil => rfl
  | cons entry rest ih =>
    obtain ⟨j, w⟩ := entry
    by_cases same : (j == k) = true
    · simp [insert, same]
    · simp only [insert, same, Bool.false_eq_true, if_false, List.map_cons, ih, List.any_cons,
        Bool.false_or]
      split <;> rfl

theorem mem_insert {entries : List (κ × ν)} {k : κ} {v : ν} {entry : κ × ν}
    (distinct : (entries.map (·.1)).Pairwise fun i j => (i == j) = false)
    (member : entry ∈ insert (· == ·) entries k v) :
    (entry.1 == k) = true ∧ entry.2 = v ∨ (entry.1 == k) = false ∧ entry ∈ entries := by
  induction entries with
  | nil =>
    rw [List.mem_singleton.1 member]
    exact .inl ⟨BEq.rfl, rfl⟩
  | cons first rest ih =>
    obtain ⟨j, w⟩ := first
    obtain ⟨apart, distinct⟩ := List.pairwise_cons.1 distinct
    by_cases same : (j == k) = true
    · simp only [insert, same, if_true, List.mem_cons] at member
      rcases member with rfl | member
      · exact .inl ⟨same, rfl⟩
      · have other : (j == entry.1) = false := apart _ (List.mem_map_of_mem member)
        -- A second entry of the key would be one of the first entry's key as well.
        refine .inr ⟨Bool.eq_false_iff.2 fun also => ?_, List.mem_cons_of_mem _ member⟩
        rw [BEq.trans same (BEq.symm also)] at other
        cases other
    · simp only [insert, same, Bool.false_eq_true, if_false, List.mem_cons] at member
      rcases member with rfl | member
      · exact .inr ⟨by simpa using same, List.mem_cons_self⟩
      · rcases ih distinct member with replaced | ⟨other, member⟩
        · exact .inl replaced
        · exact .inr ⟨other, List.mem_cons_of_mem _ member⟩

end Mapping

end Mapping

namespace Stream

variable {α β κ ν : Type}

def Last (items : List β) (p : β → Bool) (item : β) : Prop :=
  ∃ before after, items = before ++ item :: after ∧ p item = true ∧
    ∀ later ∈ after, p later = false

structure KeepsLast [BEq κ] (key : β → κ) (value : β → ν) (items : List β)
    (mapping : List (κ × ν)) : Prop where
  keys : mapping.map (·.1) = (items.map key).eraseDups
  distinct : (mapping.map (·.1)).Pairwise fun j k => (j == k) = false
  last : ∀ entry ∈ mapping, ∃ item, Last items (fun b => key b == entry.1) item ∧
    entry.2 = value item

theorem Last.concat {items : List β} {p : β → Bool} {item other : β}
    (last : Last items p item) (apart : p other = false) : Last (items ++ [other]) p item := by
  obtain ⟨before, after, rfl, own, others⟩ := last
  refine ⟨before, after ++ [other], by simp, own, fun later member => ?_⟩
  rcases List.mem_append.1 member with member | member
  · exact others later member
  · rw [List.mem_singleton.1 member, apart]

theorem Last.find? {items : List β} {p : β → Bool} {item : β} (last : Last items p item) :
    items.reverse.find? p = some item := by
  obtain ⟨before, after, rfl, own, others⟩ := last
  rw [List.find?_eq_some_iff_append]
  refine ⟨own, after.reverse, before.reverse, by simp, fun later member => ?_⟩
  simp [others later (List.mem_reverse.1 member)]

theorem Last.unique {items : List β} {p : β → Bool} {item other : β}
    (last : Last items p item) (also : Last items p other) : item = other :=
  Option.some.inj (last.find?.symm.trans also.find?)

section LastWins

variable [BEq κ] {key : β → κ} {value : β → ν} {items : List β}

theorem KeepsLast.concat [EquivBEq κ] {mapping : List (κ × ν)}
    (kept : KeepsLast key value items mapping) (item : β) :
    KeepsLast key value (items ++ [item])
      (Mapping.insert (· == ·) mapping (key item) (value item)) := by
  have keys := Mapping.keys_insert_of_equiv mapping (key item) (value item)
  refine ⟨?_, ?_, fun entry member => ?_⟩
  · rw [keys, List.map_append, List.map_singleton, eraseDups_concat_of_equiv, kept.keys]
  · rw [keys]
    split
    next => exact kept.distinct
    next fresh =>
      have apart : ∀ k ∈ mapping.map (·.1), (k == key item) = false := by simpa using fresh
      refine List.pairwise_append.2 ⟨kept.distinct, List.pairwise_singleton _ _, ?_⟩
      simpa using apart
  · -- The new item is the last one of its key, and comes after the last one of every other key.
    rcases Mapping.mem_insert kept.distinct member with ⟨same, written⟩ | ⟨other, member⟩
    · exact ⟨item, ⟨items, [], rfl, BEq.symm same, nofun⟩, written⟩
    · obtain ⟨older, last, written⟩ := kept.last entry member
      exact ⟨older, last.concat (BEq.symm_false other), written⟩

theorem keepsLast_ofPairs [EquivBEq κ] (key : β → κ) (value : β → ν) (items : List β) :
    KeepsLast key value items
      (Mapping.ofPairs (· == ·) (items.map fun b => (key b, value b))) := by
  -- From the end, as the mapping is made by inserting the items in turn.
  induction items using List.reverseRecOn with
  | nil => exact ⟨rfl, .nil, nofun⟩
  | append_singleton items item ih =>
    rw [List.map_append, List.map_singleton, Mapping.ofPairs_concat]
    exact ih.concat item

theorem KeepsLast.unique {mapping others : List (κ × ν)}
    (kept : KeepsLast key value items mapping) (also : KeepsLast key value items others) :
    mapping = others := by
  have same : mapping.map (·.1) = others.map (·.1) := kept.keys.trans also.keys.symm
  have length : mapping.length = others.length := by simpa using congrArg List.length same
  -- At each place there is the same key, which has one last item.
  refine List.ext_getElem length fun n first second => ?_
  have key : mapping[n].1 = others[n].1 := by
    have mapped : n < (mapping.map (·.1)).length := by simpa using first
    have equal := List.getElem_of_eq same mapped
    simpa only [List.getElem_map] using equal
  obtain ⟨item, last, written⟩ := kept.last _ (List.getElem_mem first)
  obtain ⟨other, lastOther, writtenOther⟩ := also.last _ (List.getElem_mem second)
  rw [key] at last
  rw [last.unique lastOther] at written
  exact Prod.ext key (written.trans writtenOther.symm)

theorem existsUnique_keepsLast [EquivBEq κ] (key : β → κ) (value : β → ν) (items : List β) :
    ∃! mapping, KeepsLast key value items mapping := by
  have kept := keepsLast_ofPairs key value items
  exact ⟨_, kept, fun _ also => also.unique kept⟩

theorem outcome_toMapping_eq_ok_iff [EquivBEq κ] {operation : String}
    {convert : α → Except Failure β} {s : Script α} {mapping : List (κ × ν)} :
    (toMapping (· == ·) (fun _ => true) (fun b => pure (key b)) (fun b => pure (value b)) operation
        convert s).outcome = .ok mapping ↔
      ∃ items, Converted convert s.items items ∧ s.ending = .complete ∧ s.closeFault? = none ∧
        KeepsLast key value items mapping := by
  have mapped (items : List β) : (mappedBy (· == ·) (fun _ => true) (fun b => pure (key b))
      (fun b => pure (value b)) items).outcome =
        .ok (Mapping.ofPairs (· == ·) (items.map fun b => (key b, value b))) :=
    (congrArg Run.outcome (mappedBy_ofExcept (· == ·) (fun _ => true) (fun b => .ok (key b))
      (fun b => .ok (value b)) items)).trans (mappingOf_eq key value items)
  rw [toMapping, Run.outcome_bind]
  constructor
  · intro done
    obtain ⟨items, drained, made⟩ := bind_eq_ok done
    obtain ⟨converted, ended, closed⟩ := outcome_drain_eq_ok_iff.1 drained
    rw [mapped, Except.ok.injEq] at made
    exact ⟨items, converted, ended, closed, made ▸ keepsLast_ofPairs key value items⟩
  · rintro ⟨items, converted, ended, closed, kept⟩
    rw [outcome_drain_eq_ok_iff.2 ⟨converted, ended, closed⟩,
      kept.unique (keepsLast_ofPairs key value items)]
    exact mapped items

end LastWins

section Sorted

variable [DecidableEq κ] {less : κ → κ → Bool} {key : β → κ} {items sorted others : List β}

def Total (less : κ → κ → Bool) : Prop :=
  ∀ a b, less a b = false → less b a = false → a = b

theorem StablySorted.head_eq (total : Total less) {a b : β}
    (sorts : StablySorted less key items (a :: sorted))
    (also : StablySorted less key items (b :: others)) : a = b := by
  have least {a b : β} {sorted others : List β}
      (sorts : StablySorted less key items (a :: sorted))
      (also : StablySorted less key items (b :: others)) (differ : a ≠ b) :
      less (key b) (key a) = false := by
    have behind : b ∈ sorted := by
      have member : b ∈ a :: sorted :=
        (sorts.perm.trans also.perm.symm).mem_iff.2 List.mem_cons_self
      simpa [Ne.symm differ] using member
    exact (List.pairwise_cons.1 sorts.ascending).1 b behind
  by_contra differ
  have same : key a = key b :=
    total _ _ (least also sorts (Ne.symm differ)) (least sorts also differ)
  -- Of the items with this key both lists have the one first that came first.
  have first := (sorts.stable (key a)).trans (also.stable (key a)).symm
  rw [List.filter_cons_of_pos (by simp), List.filter_cons_of_pos (by simp [same])] at first
  exact differ (List.cons.inj first).1

theorem StablySorted.unique (total : Total less) (sorts : StablySorted less key items sorted)
    (also : StablySorted less key items others) : sorted = others := by
  -- Without their heads, which are the same, both lists sort what is left of the items.
  induction sorted generalizing items others with
  | nil =>
    have empty : others.Perm [] := also.perm.trans sorts.perm.symm
    exact empty.eq_nil.symm
  | cons a rest ih =>
    cases others with
    | nil => exact (sorts.perm.trans also.perm.symm).eq_nil
    | cons b more =>
      cases sorts.head_eq total also
      have tail {rest : List β} (sorts : StablySorted less key items (a :: rest)) :
          rest.Pairwise fun a b => less (key b) (key a) = false :=
        (List.pairwise_cons.1 sorts.ascending).2
      have stable (k : κ) : (more.filter fun b => key b = k) = rest.filter fun b => key b = k := by
        have both := (also.stable k).trans (sorts.stable k).symm
        simp only [List.filter_cons] at both
        split at both
        · exact (List.cons.inj both).2
        · exact both
      have perm : more.Perm rest := (also.perm.trans sorts.perm.symm).cons_inv
      have left : StablySorted less key rest rest := ⟨.refl _, tail sorts, fun _ => rfl⟩
      rw [ih left ⟨perm, tail also, stable⟩]

theorem StablySorted.map {γ : Type} {f : γ → β} {own : γ → κ} {items sorted : List γ}
    (sorts : StablySorted less own items sorted) (same : ∀ c, key (f c) = own c) :
    StablySorted less key (items.map f) (sorted.map f) := by
  refine ⟨sorts.perm.map f, List.pairwise_map.2 ?_, fun k => ?_⟩
  · simpa [same] using sorts.ascending
  · simpa [List.filter_map, Function.comp_def, same] using congrArg (List.map f) (sorts.stable k)

theorem stablySorted_mergeSort (order : StrictOrder less) (total : Total less) (key : β → κ)
    (items : List β) :
    StablySorted less key items (items.mergeSort fun a b => !less (key b) (key a)) := by
  have trans (a b c : β) (first : (!less (key b) (key a)) = true)
      (second : (!less (key c) (key b)) = true) : (!less (key c) (key a)) = true := by
    simp only [Bool.not_eq_true'] at first second ⊢
    cases ahead : less (key a) (key b) with
    | true =>
      by_contra behind
      have between := order.trans _ _ _ (by simpa using behind) ahead
      rw [second] at between
      cases between
    | false => rwa [total _ _ ahead first]
  have compares (a b : β) : (!less (key b) (key a) || !less (key a) (key b)) = true := by
    by_contra both
    simp only [Bool.or_eq_true, Bool.not_eq_true', not_or, Bool.not_eq_false] at both
    have own := order.trans _ _ _ both.1 both.2
    rw [order.irrefl] at own
    cases own
  have perm := List.mergeSort_perm items fun a b => !less (key b) (key a)
  refine ⟨perm, ?_, fun k => ?_⟩
  · simpa using List.pairwise_mergeSort trans compares items
  · -- The items of one key are in order already, so they are found as they are in the result.
    have level : (items.filter fun b => key b = k).Pairwise
        fun a b => (!less (key b) (key a)) = true := by
      refine List.pairwise_of_forall_mem_list fun a first b second => ?_
      simp only [List.mem_filter, decide_eq_true_eq] at first second
      rw [first.2, second.2, order.irrefl]
      rfl
    have kept := (List.sublist_mergeSort trans compares level List.filter_sublist).filter
      fun b => key b = k
    rw [List.filter_filter] at kept
    simp only [Bool.and_self] at kept
    exact (kept.eq_of_length (perm.filter _).length_eq.symm).symm

end Sorted

section Ordered

variable [LinearOrder κ] {key : β → κ} {sorted : List β}

theorem strictOrder_lt : StrictOrder fun a b : κ => decide (a < b) where
  irrefl a := by simp
  trans a b c first second := by
    simp only [decide_eq_true_eq] at first second ⊢
    exact lt_trans first second

theorem total_lt : Total fun a b : κ => decide (a < b) := by
  intro a b first second
  simp only [decide_eq_false_iff_not, not_lt] at first second
  exact le_antisymm second first

theorem existsUnique_stablySorted (key : β → κ) (items : List β) :
    ∃! sorted, StablySorted (fun a b => decide (a < b)) key items sorted := by
  have sorts := stablySorted_mergeSort strictOrder_lt total_lt key items
  exact ⟨_, sorts, fun _ also => also.unique total_lt sorts⟩

theorem outcome_toList_eq_ok_iff {operation : String} {convert : α → Except Failure β}
    {s : Script α} :
    (toList (fun a b => some (decide (a < b))) (some fun b => pure (key b)) operation convert
        s).outcome = .ok sorted ↔
      ∃ items, Converted convert s.items items ∧ s.ending = .complete ∧ s.closeFault? = none ∧
        StablySorted (fun a b => decide (a < b)) key items sorted := by
  have listed (items : List β) :
      (sortedBy (fun a b => some (decide (a < b))) (fun b => pure (key b)) items).outcome =
        sortByKey (fun a b => some (decide (a < b))) (fun b => .ok (key b)) items :=
    congrArg Run.outcome
      (sortedBy_ofExcept (fun a b => some (decide (a < b))) (fun b => .ok (key b)) items)
  rw [toList, Run.outcome_bind]
  constructor
  · intro done
    obtain ⟨items, drained, made⟩ := bind_eq_ok done
    obtain ⟨converted, ended, closed⟩ := outcome_drain_eq_ok_iff.1 drained
    obtain ⟨also, sorts, stably⟩ := sortByKey_sorts strictOrder_lt key items
    rw [listed, sorts, Except.ok.injEq] at made
    exact ⟨items, converted, ended, closed, made ▸ stably⟩
  · rintro ⟨items, converted, ended, closed, stably⟩
    obtain ⟨also, sorts, same⟩ := sortByKey_sorts strictOrder_lt key items
    rw [outcome_drain_eq_ok_iff.2 ⟨converted, ended, closed⟩, stably.unique total_lt same]
    exact (listed items).trans sorts

end Ordered

theorem outcome_toList_unsorted_eq_ok_iff {less? : κ → κ → Option Bool} {operation : String}
    {convert : α → Except Failure β} {s : Script α} {items : List β} :
    (toList less? none operation convert s).outcome = .ok items ↔
      Converted convert s.items items ∧ s.ending = .complete ∧ s.closeFault? = none := by
  rw [toList, Run.outcome_bind, ← @outcome_drain_eq_ok_iff _ _ operation]
  cases (drain operation convert s).outcome <;> rfl

end Stream

end BackupConsole
