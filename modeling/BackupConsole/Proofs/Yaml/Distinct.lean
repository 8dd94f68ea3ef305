import BackupConsole.Proofs.Except
import BackupConsole.Yaml.Document
import Mathlib.Data.List.Basic

set_option autoImplicit false

namespace BackupConsole.Yaml

def Distinct (entries : List (Given × Given)) : Prop :=
  entries.Pairwise fun a b => a.1.sameKey b.1 = false

variable {entries more : List (Given × Given)} {b b' : Build}

theorem distinct_insertLast (distinct : Distinct entries) (key value : Given) :
    Distinct (insertLast entries key value) := by
  unfold insertLast
  split
  next known =>
    -- Only values change, so any two keys differ as before.
    have kept : ∀ entry : Given × Given,
        (if entry.1.sameKey key then (entry.1, value) else (entry.1, entry.2)).1 = entry.1 := by
      intro entry
      split <;> rfl
    unfold Distinct
    rw [List.pairwise_map]
    refine distinct.imp fun differ => ?_
    simpa only [kept] using differ
  next fresh =>
    refine List.pairwise_append.2 ⟨distinct, List.pairwise_singleton _ _, ?_⟩
    intro entry member last single
    rw [List.mem_singleton.1 single]
    by_contra same
    exact fresh (List.any_eq_true.2 ⟨entry, member, by simpa using same⟩)

theorem distinct_buildEntries {pairs : List (Nat × Nat)} (distinct : Distinct entries)
    (built : buildEntries pairs entries b = .ok (more, b')) : Distinct more := by
  induction pairs generalizing entries b with
  | nil =>
    cases built
    exact distinct
  | cons pair rest ih =>
    obtain ⟨⟨k, read⟩, _, built⟩ := bind_eq_ok built
    cases k with
    | collection kind => cases built
    | _ =>
      obtain ⟨⟨v, read'⟩, _, built⟩ := bind_eq_ok built
      exact ih (distinct_insertLast distinct _ v) built

theorem distinct_buildCollection {i : Nat} (built : buildCollection b i = .ok (entries, b')) :
    Distinct entries := by
  have ofEntries {i : Nat} (built : buildCollection.entriesOf b i = .ok (entries, b')) :
      Distinct entries := by
    obtain ⟨nodes, _, built⟩ := bind_eq_ok built
    exact distinct_buildEntries .nil built
  have ofItems {x : Except Defect Build}
      (built : (x >>= fun b => pure (([] : List (Given × Given)), b)) = .ok (entries, b')) :
      Distinct entries := by
    obtain ⟨_, _, built⟩ := bind_eq_ok built
    cases built
    exact .nil
  unfold buildCollection at built
  split at built
  next => exact ofItems built
  next => exact ofItems built
  next => exact ofItems built
  next => exact ofEntries built
  next => exact ofEntries built
  next => cases built

theorem distinct_of_documentOf {reader : Reader} {cs : List Char}
    (read : documentOf reader cs = .ok (.mapping entries)) : Distinct entries := by
  unfold documentOf at read
  split at read
  next => cases read
  next =>
    obtain ⟨graph, _, read⟩ := bind_eq_ok read
    cases graph with
    | none => cases read
    | some graph =>
      obtain ⟨⟨value, b⟩, _, read⟩ := bind_eq_ok read
      cases value with
      | collection kind =>
        cases kind with
        | dict =>
          obtain ⟨⟨held, b'⟩, built, read⟩ := bind_eq_ok read
          obtain ⟨_, _, read⟩ := bind_eq_ok read
          cases read
          exact distinct_buildCollection built
        | list | set =>
          obtain ⟨_, _, read⟩ := bind_eq_ok read
          cases read
      | _ => cases read

theorem eq_of_distinct (distinct : Distinct entries) {name : String} {v w : Given}
    (member : (.text name, v) ∈ entries) (also : (.text name, w) ∈ entries) : v = w := by
  have same : (Given.text name).sameKey (.text name) = true := by simp [Given.sameKey]
  induction distinct with
  | nil => cases member
  | cons differ _ ih =>
    rcases List.mem_cons.1 member with rfl | later
    · rcases List.mem_cons.1 also with both | later
      · exact (Prod.mk.inj both).2.symm
      · cases same.symm.trans (differ _ later)
    · rcases List.mem_cons.1 also with rfl | later'
      · cases same.symm.trans (differ _ later)
      · exact ih later later'

end BackupConsole.Yaml
