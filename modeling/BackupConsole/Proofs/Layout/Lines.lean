import BackupConsole.Text.Lines
import Mathlib.Data.List.Basic

set_option autoImplicit false

namespace BackupConsole.Text

def Unbroken (s : String) : Prop := '\n' ∉ s.toList

instance (s : String) : Decidable (Unbroken s) := inferInstanceAs (Decidable (_ ∉ _))

theorem unbroken_ofList {cs : List Char} (free : '\n' ∉ cs) : Unbroken (String.ofList cs) := by
  rw [Unbroken, String.toList_ofList]
  exact free

theorem unbroken_append {s t : String} : Unbroken (s ++ t) ↔ Unbroken s ∧ Unbroken t := by
  simp [Unbroken, not_or]

theorem unbroken_padRight {width : Nat} {s : String} :
    Unbroken (padRight width s) ↔ Unbroken s := by
  simp [Unbroken, toList_padRight]

def ofLines (lines : List String) : String := String.join (lines.map (· ++ "\n"))

theorem ofLines_append (lines more : List String) :
    ofLines (lines ++ more) = ofLines lines ++ ofLines more := by
  simp [ofLines, String.join_append]

theorem ofLines_flatMap {α : Type} (as : List α) (f : α → List String) :
    ofLines (as.flatMap f) = String.join (as.map fun a => ofLines (f a)) := by
  induction as with
  | nil => rfl
  | cons a rest ih => rw [List.flatMap_cons, ofLines_append, ih, List.map_cons, String.join_cons]

theorem toList_ofLines_cons (line : String) (lines : List String) :
    (ofLines (line :: lines)).toList = line.toList ++ '\n' :: (ofLines lines).toList := by
  simp [ofLines, String.join_cons]

theorem append_mark_inj {mark : Char} {first first' rest rest' : List Char} (free : mark ∉ first)
    (free' : mark ∉ first') (same : first ++ mark :: rest = first' ++ mark :: rest') :
    first = first' ∧ rest = rest' := by
  induction first generalizing first' with
  | nil =>
    cases first' with
    | nil => exact ⟨rfl, (List.cons.inj same).2⟩
    | cons c first' =>
      cases (List.cons.inj same).1
      exact absurd List.mem_cons_self free'
  | cons c first ih =>
    cases first' with
    | nil =>
      cases (List.cons.inj same).1
      exact absurd List.mem_cons_self free
    | cons c' first' =>
      obtain ⟨head, tail⟩ := List.cons.inj same
      obtain ⟨firsts, rests⟩ := ih (fun member => free (List.mem_cons_of_mem c member))
        (fun member => free' (List.mem_cons_of_mem c' member)) tail
      exact ⟨by rw [head, firsts], rests⟩

theorem ofLines_injective {lines more : List String} (unbroken : ∀ line ∈ lines, Unbroken line)
    (unbroken' : ∀ line ∈ more, Unbroken line) (same : ofLines lines = ofLines more) :
    lines = more := by
  induction lines generalizing more with
  | nil =>
    cases more with
    | nil => rfl
    | cons line more =>
      have chars := congrArg String.toList same
      rw [toList_ofLines_cons] at chars
      simp [ofLines] at chars
  | cons line lines ih =>
    obtain ⟨first, unbroken⟩ := List.forall_mem_cons.1 unbroken
    have chars := congrArg String.toList same
    rw [toList_ofLines_cons] at chars
    cases more with
    | nil => simp [ofLines] at chars
    | cons line' more =>
      obtain ⟨first', unbroken'⟩ := List.forall_mem_cons.1 unbroken'
      rw [toList_ofLines_cons] at chars
      obtain ⟨here, later⟩ := append_mark_inj first first' chars
      rw [String.toList_injective here, ih unbroken unbroken' (String.toList_injective later)]

variable {α β : Type}

-- Blocks of one length, put together, are determined by the whole.
theorem flatMap_injective {f : α → List β} {size : Nat} (sized : ∀ a, (f a).length = size + 1)
    {as bs : List α} (injective : ∀ a ∈ as, ∀ b ∈ bs, f a = f b → a = b)
    (same : as.flatMap f = bs.flatMap f) : as = bs := by
  have filled (a : α) (rest : List β) : f a ++ rest ≠ [] :=
    List.append_ne_nil_of_left_ne_nil (List.ne_nil_of_length_eq_add_one (sized a)) rest
  induction as generalizing bs with
  | nil =>
    cases bs with
    | nil => rfl
    | cons b bs => exact absurd same.symm (filled b _)
  | cons a as ih =>
    cases bs with
    | nil => exact absurd same (filled a _)
    | cons b bs =>
      rw [List.flatMap_cons, List.flatMap_cons] at same
      obtain ⟨first, rest⟩ := List.append_inj same ((sized a).trans (sized b).symm)
      have here := injective a List.mem_cons_self b List.mem_cons_self first
      have later := ih (fun a ha b hb => injective a (List.mem_cons_of_mem _ ha) b
        (List.mem_cons_of_mem _ hb)) rest
      rw [here, later]

theorem length_flatMap {f : α → List β} {size : Nat} (sized : ∀ a, (f a).length = size)
    (as : List α) : (as.flatMap f).length = size * as.length := by
  induction as with
  | nil => rfl
  | cons a rest ih =>
    rw [List.flatMap_cons, List.length_append, ih, sized, List.length_cons, Nat.mul_succ,
      Nat.add_comm]

end BackupConsole.Text
