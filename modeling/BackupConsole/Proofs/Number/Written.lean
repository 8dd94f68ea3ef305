set_option autoImplicit false

namespace BackupConsole.Number

theorem toList_toString_ofNat (n : Nat) : (toString (n : Int)).toList = Nat.toDigits 10 n :=
  Nat.toList_repr

theorem toList_toString_negSucc (n : Nat) :
    (toString (Int.negSucc n)).toList = '-' :: Nat.toDigits 10 (n + 1) := by
  simp [Int.toString_eq_repr, Int.repr, Nat.toList_repr]

theorem isDigit_of_mem_toDigits {n : Nat} {c : Char} (written : c ∈ Nat.toDigits 10 n) :
    c.isDigit = true :=
  Nat.isDigit_of_mem_toDigits (by decide) (by decide) written

theorem isDigit_of_mem_toString {n : Int} {c : Char} (written : c ∈ (toString n).toList) :
    c = '-' ∨ c.isDigit = true := by
  cases n with
  | ofNat n =>
    rw [Int.ofNat_eq_natCast, toList_toString_ofNat] at written
    exact .inr (isDigit_of_mem_toDigits written)
  | negSucc n =>
    rw [toList_toString_negSucc] at written
    exact (List.mem_cons.1 written).imp id isDigit_of_mem_toDigits

theorem toDigits_injective {m n : Nat} (same : Nat.toDigits 10 m = Nat.toDigits 10 n) : m = n := by
  have read := congrArg (fun digits => Nat.ofDigitChars 10 digits 0) same
  simpa using read

theorem toString_injective {a b : Int} (same : (toString a).toList = (toString b).toList) :
    a = b := by
  -- A sign is no digit, so both numbers have one or none of them has.
  have unsigned (n m : Nat) : '-' :: Nat.toDigits 10 m ≠ Nat.toDigits 10 n := by
    intro signed
    have digit := isDigit_of_mem_toDigits (signed ▸ List.mem_cons_self)
    revert digit
    decide
  cases a with
  | ofNat m =>
    cases b with
    | ofNat n =>
      simp only [Int.ofNat_eq_natCast, toList_toString_ofNat] at same
      rw [toDigits_injective same]
    | negSucc n =>
      rw [Int.ofNat_eq_natCast, toList_toString_ofNat, toList_toString_negSucc] at same
      exact absurd same.symm (unsigned _ _)
  | negSucc m =>
    cases b with
    | ofNat n =>
      rw [Int.ofNat_eq_natCast, toList_toString_ofNat, toList_toString_negSucc] at same
      exact absurd same (unsigned _ _)
    | negSucc n =>
      rw [toList_toString_negSucc, toList_toString_negSucc] at same
      have following := toDigits_injective (List.cons.inj same).2
      rw [Nat.succ.inj following]

end BackupConsole.Number
