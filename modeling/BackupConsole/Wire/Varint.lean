set_option autoImplicit false

namespace BackupConsole.Wire

def varintFuel : Nat → Nat → List UInt8
  | 0, n => [UInt8.ofNat n]
  | fuel + 1, n =>
    if n < 128 then [UInt8.ofNat n]
    else UInt8.ofNat (n % 128 + 128) :: varintFuel fuel (n / 128)

def varint (n : Nat) : List UInt8 := varintFuel 9 n

def readVarint : Nat → List UInt8 → Option (Nat × List UInt8)
  | 0, _ => none
  | _, [] => none
  | limit + 1, b :: rest =>
    if b.toNat < 128 then some (b.toNat, rest)
    else (readVarint limit rest).map fun (n, rest) => (b.toNat - 128 + 128 * n, rest)

theorem readVarint_varintFuel (limit fuel n : Nat) (rest : List UInt8)
    (hn : n < Nat.pow 128 (fuel + 1)) (hl : fuel < limit) :
    readVarint limit (varintFuel fuel n ++ rest) = some (n, rest) := by
  induction fuel generalizing limit n with
  | zero =>
    obtain ⟨limit, rfl⟩ := Nat.exists_eq_add_of_lt hl
    have small : n < 128 := by simpa using hn
    have byte : (UInt8.ofNat n).toNat = n := by simp; omega
    simp [varintFuel, readVarint, byte, small]
  | succ fuel ih =>
    obtain ⟨limit, rfl⟩ : ∃ k, limit = k + 1 := ⟨limit - 1, by omega⟩
    by_cases small : n < 128
    · have byte : (UInt8.ofNat n).toNat = n := by simp; omega
      simp [varintFuel, readVarint, byte, small]
    · have byte : (UInt8.ofNat (n % 128 + 128)).toNat = n % 128 + 128 := by simp; omega
      have less : n / 128 < Nat.pow 128 (fuel + 1) :=
        (Nat.div_lt_iff_lt_mul (by omega)).2 hn
      have large : ¬ n % 128 + 128 < 128 := by omega
      simp only [varintFuel, small, if_false, List.cons_append, readVarint, byte, large,
        ih limit (n / 128) less (by omega), Option.map_some, Option.some.injEq, Prod.mk.injEq,
        and_true]
      omega

theorem readVarint_varint (limit n : Nat) (rest : List UInt8) (hn : n < 0x10000000000000000)
    (hl : 10 ≤ limit) : readVarint limit (varint n ++ rest) = some (n, rest) :=
  readVarint_varintFuel limit 9 n rest (by simp; omega) (by omega)

theorem varint_ne_nil (n : Nat) : varint n ≠ [] := by
  unfold varint varintFuel
  split <;> simp

theorem readVarint_length {limit n : Nat} {bs rest : List UInt8}
    (h : readVarint limit bs = some (n, rest)) : rest.length < bs.length := by
  induction limit generalizing bs n rest with
  | zero => simp [readVarint] at h
  | succ limit ih =>
    cases bs with
    | nil => simp [readVarint] at h
    | cons b tail =>
      simp only [readVarint] at h
      split at h
      · simp only [Option.some.injEq, Prod.mk.injEq] at h
        simp [← h.2]
      · rw [Option.map_eq_some_iff] at h
        obtain ⟨⟨m, rest'⟩, hm, he⟩ := h
        simp only [Prod.mk.injEq] at he
        have := ih hm
        simp only [List.length_cons, ← he.2]
        omega

end BackupConsole.Wire
