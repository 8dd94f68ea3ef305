import BackupConsole.Contract
import BackupConsole.Proofs.Number.Written
import Mathlib.Data.List.Nodup

set_option autoImplicit false

namespace BackupConsole

open Wire (Enumeration)

theorem not_isAlpha_of_mem_toString {n : Int} {c : Char} (written : c ∈ (toString n).toList) :
    c.isAlpha = false := by
  rcases Number.isDigit_of_mem_toString written with rfl | digit
  · decide
  · unfold Char.isDigit at digit
    unfold Char.isAlpha Char.isUpper Char.isLower
    grind

theorem Wire.Enumeration.mem_labels {e : Enumeration} {n : Int} {name : String}
    (found : e.label? n = some name) : (name, n) ∈ e.labels := by
  obtain ⟨l, entry, rfl⟩ := Option.map_eq_some_iff.1 found
  have numbered := List.find?_some entry
  simp only [beq_iff_eq] at numbered
  subst numbered
  exact List.mem_of_find?_eq_some entry

namespace Contract

def shortened (lead name : String) : String :=
  String.ofList ((name.toList.drop lead.length).map Char.toLower)

/-- An enumeration whose labels stay apart when they are shortened. Each has a letter left, so that
none of them can be the text of a number. -/
structure Labelling where
  enumeration : Enumeration
  lead : String
  nodup : (enumeration.labels.map fun l => shortened lead l.1).Nodup
  lettered : ∀ l ∈ enumeration.labels, (shortened lead l.1).toList.any Char.isAlpha

namespace Labelling

variable {l : Labelling} {n m : Int}

def label (l : Labelling) (n : Int) : String := Contract.label l.enumeration l.lead n

theorem label_of_declared {name : String} (declared : l.enumeration.label? n = some name) :
    l.label n = shortened l.lead name := by
  simp only [label, Contract.label, declared, shortened]

theorem label_of_undeclared (undeclared : l.enumeration.label? n = none) :
    l.label n = toString n := by
  simp only [label, Contract.label, undeclared]

theorem label_ne_of_declared {name : String} (declared : l.enumeration.label? n = some name)
    (undeclared : l.enumeration.label? m = none) : l.label n ≠ l.label m := by
  rw [label_of_declared declared, label_of_undeclared undeclared]
  intro same
  obtain ⟨c, written, letter⟩ :=
    List.any_eq_true.1 (l.lettered _ (Enumeration.mem_labels declared))
  rw [same] at written
  exact absurd letter (by simp [not_isAlpha_of_mem_toString written])

theorem label_inj : l.label n = l.label m ↔ n = m := by
  refine ⟨fun same => ?_, congrArg l.label⟩
  -- A label is never the text of a number, so both numbers have labels or none of them has.
  cases first : l.enumeration.label? n with
  | some name =>
    cases second : l.enumeration.label? m with
    | some other =>
      rw [label_of_declared first, label_of_declared second] at same
      exact congrArg Prod.snd (List.inj_on_of_nodup_map l.nodup
        (Enumeration.mem_labels first) (Enumeration.mem_labels second) same)
    | none => exact absurd same (label_ne_of_declared first second)
  | none =>
    cases second : l.enumeration.label? m with
    | some other => exact absurd same.symm (label_ne_of_declared second first)
    | none =>
      rw [label_of_undeclared first, label_of_undeclared second] at same
      exact Number.toString_injective (congrArg String.toList same)

end Labelling

def backupTypes : Labelling where
  enumeration := backupType
  lead := "BACKUP_TYPE_"
  nodup := by decide
  lettered := by decide

def compressionTypes : Labelling where
  enumeration := compressionType
  lead := "COMPRESSION_TYPE_"
  nodup := by decide
  lettered := by decide

theorem backupTypeLabel_inj {a b : Int32} : backupTypeLabel a = backupTypeLabel b ↔ a = b :=
  (backupTypes.label_inj).trans Int32.toInt_inj

theorem compressionTypeLabel_inj {a b : Int32} :
    compressionTypeLabel a = compressionTypeLabel b ↔ a = b :=
  (compressionTypes.label_inj).trans Int32.toInt_inj

example : compressionTypeLabel 3 = "lz4" ∧ compressionTypeLabel (-3) = "-3" := by decide

end Contract

end BackupConsole
