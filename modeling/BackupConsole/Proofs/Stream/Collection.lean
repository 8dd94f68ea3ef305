import BackupConsole.Proofs.Keys
import BackupConsole.Stream
import Mathlib.Data.List.Basic

set_option autoImplicit false

namespace BackupConsole.Stream

variable {β κ : Type}

structure StrictOrder (less : κ → κ → Bool) : Prop where
  irrefl : ∀ a, less a a = false
  trans : ∀ a b c, less a b = true → less b c = true → less a c = true

/-- The same items, in ascending order of their keys, and those of one key as they came. -/
structure StablySorted [DecidableEq κ] (less : κ → κ → Bool) (key : β → κ)
    (items sorted : List β) : Prop where
  perm : sorted.Perm items
  ascending : sorted.Pairwise fun a b => less (key b) (key a) = false
  stable : ∀ k, (sorted.filter fun b => key b = k) = items.filter fun b => key b = k

structure LastWins [BEq κ] {ν : Type} (pairs mapping : List (κ × ν)) : Prop where
  keys : mapping.map (·.1) = (pairs.map (·.1)).eraseDups
  value : ∀ k, mapping.lookup k = Mapping.lastValue? (· == ·) pairs k

theorem mappingOf_eq [BEq κ] {ν : Type} (key : β → κ) (value : β → ν) (items : List β) :
    mappingOf (· == ·) (fun b => .ok (key b)) (fun b => .ok (value b)) (fun _ => true) items =
      .ok (Mapping.ofPairs (· == ·) (items.map fun b => (key b, value b))) := by
  have paired : (items.mapM fun b => (do
      let k ← (.ok (key b) : Except Failure κ)
      let v ← (.ok (value b) : Except Failure ν)
      if true then return (k, v) else .error .wrongType)) =
        .ok (items.map fun b => (key b, value b)) := List.mapM_pure
  exact congrArg (· >>= fun pairs => .ok (Mapping.ofPairs (· == ·) pairs)) paired

theorem mappingOf_lastWins [BEq κ] [LawfulBEq κ] {ν : Type} (key : β → κ) (value : β → ν)
    (items : List β) :
    ∃ mapping, mappingOf (· == ·) (fun b => .ok (key b)) (fun b => .ok (value b)) (fun _ => true)
        items = .ok mapping ∧
      LastWins (items.map fun b => (key b, value b)) mapping :=
  ⟨_, mappingOf_eq key value items, Mapping.keys_ofPairs _, Mapping.lookup_ofPairs _⟩

variable {less : κ → κ → Bool}

theorem later_of_ascending (order : StrictOrder less) {entry other : κ × β} {rest : List (κ × β)}
    (before : less entry.1 other.1 = true)
    (ascending : (other :: rest).Pairwise fun a b => less b.1 a.1 = false) :
    ∀ later ∈ other :: rest, later.1 ≠ entry.1 ∧ less later.1 entry.1 = false := by
  intro later member
  have notBefore : less later.1 other.1 = false := by
    rcases List.mem_cons.1 member with rfl | member
    · exact order.irrefl later.1
    · exact (List.pairwise_cons.1 ascending).1 later member
  constructor
  · intro same
    rw [← same, notBefore] at before
    cases before
  · cases first : less later.1 entry.1 with
    | false => rfl
    | true =>
      have between := order.trans _ _ _ first before
      rw [notBefore] at between
      cases between

variable [DecidableEq κ]

theorem insertSorted_inserts (order : StrictOrder less) (entry : κ × β) {sorted : List (κ × β)}
    (ascending : sorted.Pairwise fun a b => less b.1 a.1 = false) :
    ∃ next, insertSorted (fun a b => some (less a b)) entry sorted = .ok next ∧
      StablySorted less Prod.fst (sorted ++ [entry]) next := by
  -- By induction on the entries that are sorted; where the new one goes, all later keys differ.
  induction sorted with
  | nil => exact ⟨[entry], rfl, .refl _, List.pairwise_singleton _ _, fun _ => rfl⟩
  | cons other rest ih =>
    cases first : less entry.1 other.1 with
    | true =>
      have later := later_of_ascending order first ascending
      have ahead : (entry :: other :: rest).Pairwise fun a b => less b.1 a.1 = false :=
        List.pairwise_cons.2 ⟨fun b member => (later b member).2, ascending⟩
      refine ⟨entry :: other :: rest, by simp [insertSorted, first],
        (List.perm_append_singleton entry (other :: rest)).symm, ahead, fun k => ?_⟩
      -- Only a key of its own lets the new entry stand first.
      rw [List.filter_append]
      by_cases same : entry.1 = k
      · subst same
        have alone : ((other :: rest).filter fun b => b.1 = entry.1) = [] := by
          refine List.filter_eq_nil_iff.2 fun b member => ?_
          simpa using (later b member).1
        simp [List.filter_cons_of_pos, alone]
      · simp [List.filter_cons_of_neg, same]
    | false =>
      obtain ⟨behind, ascending⟩ := List.pairwise_cons.1 ascending
      obtain ⟨next, inserted, perm, ahead, stable⟩ := ih ascending
      have stays : (other :: next).Pairwise fun a b => less b.1 a.1 = false := by
        refine List.pairwise_cons.2 ⟨fun b member => ?_, ahead⟩
        rcases List.mem_append.1 (perm.mem_iff.1 member) with member | member
        · exact behind b member
        · rw [List.mem_singleton.1 member]
          exact first
      refine ⟨other :: next, by simp [insertSorted, first, inserted, Except.map],
        perm.cons other, stays, fun k => ?_⟩
      rw [List.cons_append, List.filter_cons, List.filter_cons, stable]

theorem insertSorted_sorts (order : StrictOrder less) (entry : κ × β)
    {entries sorted : List (κ × β)} (sorts : StablySorted less Prod.fst entries sorted) :
    ∃ next, insertSorted (fun a b => some (less a b)) entry sorted = .ok next ∧
      StablySorted less Prod.fst (entries ++ [entry]) next := by
  obtain ⟨next, inserted, perm, ascending, stable⟩ :=
    insertSorted_inserts order entry sorts.ascending
  refine ⟨next, inserted, perm.trans (sorts.perm.append_right _), ascending, fun k => ?_⟩
  rw [stable, List.filter_append, List.filter_append, sorts.stable]

theorem sortEntries_sorts (order : StrictOrder less) (entries : List (κ × β)) :
    ∃ sorted, sortEntries (fun a b => some (less a b)) entries = .ok sorted ∧
      StablySorted less Prod.fst entries sorted := by
  have run (before sorted rest : List (κ × β)) (sorts : StablySorted less Prod.fst before sorted) :
      ∃ last, rest.foldlM (fun sorted entry =>
          insertSorted (fun a b => some (less a b)) entry sorted) sorted = .ok last ∧
        StablySorted less Prod.fst (before ++ rest) last := by
    -- What is sorted so far are the entries before; every insertion takes in one of the rest.
    induction rest generalizing before sorted with
    | nil => exact ⟨sorted, rfl, by simpa using sorts⟩
    | cons entry rest ih =>
      obtain ⟨next, inserted, sorts⟩ := insertSorted_sorts order entry sorts
      obtain ⟨last, done, sorts⟩ := ih (before ++ [entry]) next sorts
      refine ⟨last, ?_, by simpa using sorts⟩
      rw [List.foldlM_cons, inserted]
      exact done
  have initial : StablySorted less Prod.fst ([] : List (κ × β)) [] := ⟨.nil, .nil, fun _ => rfl⟩
  simpa [sortEntries] using run [] [] entries initial

theorem StablySorted.values {key : β → κ} {entries sorted : List (κ × β)}
    (sorts : StablySorted less Prod.fst entries sorted)
    (keyed : ∀ entry ∈ entries, entry.1 = key entry.2) :
    StablySorted less key (entries.map (·.2)) (sorted.map (·.2)) := by
  have alsoSorted (entry : κ × β) (member : entry ∈ sorted) : entry.1 = key entry.2 :=
    keyed entry (sorts.perm.mem_iff.1 member)
  have ofKey (k : κ) {l : List (κ × β)} (keyed : ∀ entry ∈ l, entry.1 = key entry.2) :
      ((l.map (·.2)).filter fun b => key b = k) =
        (l.filter fun entry => entry.1 = k).map (·.2) := by
    rw [List.filter_map]
    congr 1
    refine List.filter_congr fun entry member => ?_
    rw [Function.comp_apply, keyed entry member]
  refine ⟨sorts.perm.map _, List.pairwise_map.2 ?_, fun k => ?_⟩
  · refine sorts.ascending.imp_of_mem fun {a b} first second ascends => ?_
    rw [← alsoSorted a first, ← alsoSorted b second]
    exact ascends
  · rw [ofKey k alsoSorted, ofKey k keyed, sorts.stable]

theorem sortByKey_sorts (order : StrictOrder less) (key : β → κ) (items : List β) :
    ∃ sorted, sortByKey (fun a b => some (less a b)) (fun b => .ok (key b)) items = .ok sorted ∧
      StablySorted less key items sorted := by
  have keyed : (items.mapM fun b => (do
      let k ← (.ok (key b) : Except Failure κ)
      return (k, b))) = .ok (items.map fun b => (key b, b)) := List.mapM_pure
  obtain ⟨entries, done, sorts⟩ := sortEntries_sorts order (items.map fun b => (key b, b))
  refine ⟨entries.map (·.2), ?_, ?_⟩
  · rw [sortByKey, keyed]
    exact congrArg (· >>= fun sorted => .ok (sorted.map (·.2))) done
  · have keys : ∀ entry ∈ items.map fun b => (key b, b), entry.1 = key entry.2 := by
      intro entry member
      obtain ⟨b, _, rfl⟩ := List.mem_map.1 member
      rfl
    have values : (items.map fun b => (key b, b)).map (·.2) = items := by
      rw [List.map_map]
      exact List.map_id items
    exact values ▸ sorts.values keys

end BackupConsole.Stream
