import BackupConsole.Number.Double

set_option autoImplicit false

namespace BackupConsole.Number

open Float.Model (UnpackedFloat)

theorem compare_swap (a b : UnpackedFloat) : b.compare a = (a.compare b).map Ordering.swap := by
  cases a with
  | notANumber => rcases b with t | _ | t | ⟨t, m, e, h⟩ <;> (try cases t) <;> rfl
  | zero s => rcases b with t | _ | t | ⟨t, m, e, h⟩ <;> (try cases t) <;> rfl
  | infinity s => cases s <;> rcases b with t | _ | t | ⟨t, m, e, h⟩ <;> (try cases t) <;> rfl
  | finite s m e h =>
    cases b with
    | notANumber => cases s <;> rfl
    | zero t => cases s <;> rfl
    | infinity t => cases s <;> cases t <;> rfl
    | finite t n f k =>
      have swapped : (compare f e).then (compare n m) =
          ((compare e f).then (compare m n)).swap := by
        rw [Ordering.swap_then, Int.compare_swap, Nat.compare_swap]
      cases s <;> cases t
      · exact congrArg (fun o => some o.swap) swapped
      · rfl
      · rfl
      · exact congrArg some swapped

theorem lt_iff_compare (a b : Float) :
    a < b ↔ a.toModel.unpack.compare b.toModel.unpack = some .lt := by
  change decide (a.toModel < b.toModel) = true ↔ _
  rw [decide_eq_true_eq]
  change (a.toModel.unpack.compare b.toModel.unpack == some .lt) = true ↔ _
  simp

theorem le_iff_compare (a b : Float) :
    a ≤ b ↔ ∃ o, a.toModel.unpack.compare b.toModel.unpack = some o ∧ o ≠ .gt := by
  change decide (a.toModel ≤ b.toModel) = true ↔ _
  rw [decide_eq_true_eq]
  change (a.toModel.unpack.compare b.toModel.unpack).any (·.isLE) = true ↔ _
  cases a.toModel.unpack.compare b.toModel.unpack with
  | none => simp
  | some o => cases o <;> simp

theorem not_le_of_lt {a b : Float} (less : a < b) : ¬ b ≤ a := by
  rw [lt_iff_compare] at less
  rw [le_iff_compare, compare_swap, less]
  simp

theorem le_of_lt {a b : Float} (less : a < b) : a ≤ b :=
  (le_iff_compare a b).2 ⟨.lt, (lt_iff_compare a b).1 less, by simp⟩

theorem comparable_of_numbers {a b : UnpackedFloat} (first : a.compare a ≠ none)
    (second : b.compare b ≠ none) : a.compare b ≠ none := by
  cases a with
  | notANumber => exact absurd rfl first
  | zero s =>
    rcases b with t | _ | t | ⟨t, m, e, h⟩ <;> (try cases t) <;> first | contradiction | nofun
  | infinity s =>
    cases s <;> rcases b with t | _ | t | ⟨t, m, e, h⟩ <;> (try cases t) <;>
      first | contradiction | nofun
  | finite s m e h =>
    cases b with
    | notANumber => exact absurd rfl second
    | _ t => cases s <;> cases t <;> nofun

theorem le_of_not_lt {a b : Float} (first : a ≤ a) (second : b ≤ b) (least : ¬ b < a) : a ≤ b := by
  rw [le_iff_compare] at first second ⊢
  rw [lt_iff_compare, compare_swap] at least
  obtain ⟨_, self, _⟩ := first
  obtain ⟨_, other, _⟩ := second
  cases compared : a.toModel.unpack.compare b.toModel.unpack with
  | none => exact absurd compared (comparable_of_numbers (by simp [self]) (by simp [other]))
  | some o =>
    refine ⟨o, rfl, ?_⟩
    rintro rfl
    rw [compared] at least
    exact least rfl

theorem unpack_infinity : infinity.toModel.unpack = .infinity .positive := rfl

theorem lt_infinity_of_not_lt {a x : Float} (finite : a < infinity) (positive : 0.0 < x)
    (least : ¬ a < x) : x < infinity := by
  have zero : (0.0 : Float).toModel.unpack = .zero .positive := rfl
  rw [lt_iff_compare, unpack_infinity] at finite ⊢
  rw [lt_iff_compare, zero] at positive
  rw [lt_iff_compare] at least
  generalize x.toModel.unpack = f at positive least ⊢
  cases f with
  | notANumber => cases positive
  | infinity s =>
    cases s with
    | positive => exact absurd finite least
    | negative => cases positive
  | zero s => cases s <;> rfl
  | finite s m e h => cases s <;> rfl

end BackupConsole.Number
