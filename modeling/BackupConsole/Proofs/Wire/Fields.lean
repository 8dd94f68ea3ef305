import BackupConsole.Wire.RawField
import Mathlib.Algebra.Group.Nat.Defs
import Mathlib.Data.List.Basic

set_option autoImplicit false

namespace BackupConsole.Wire

theorem readVarint_eq_ite (limit fuel n : Nat) (rest : List UInt8) (enough : limit < fuel) :
    readVarint (limit + 1) (varintFuel fuel n ++ rest) =
      if n < 128 ^ (limit + 1) then some (n, rest) else none := by
  -- On the bytes that may still come: each takes seven bits off the number.
  induction limit generalizing fuel n with
  | zero =>
    obtain ⟨fuel, rfl⟩ : ∃ k, fuel = k + 1 := ⟨fuel - 1, by omega⟩
    by_cases small : n < 128
    · have byte : (UInt8.ofNat n).toNat = n := by simp; omega
      simp [varintFuel, readVarint, byte, small]
    · have byte : (UInt8.ofNat (n % 128 + 128)).toNat = n % 128 + 128 := by simp; omega
      have high : ¬ n % 128 + 128 < 128 := by omega
      simp only [varintFuel, if_neg small, List.cons_append, readVarint, byte, if_neg high,
        Option.map_none, Nat.zero_add, Nat.pow_one]
  | succ limit ih =>
    obtain ⟨fuel, rfl⟩ : ∃ k, fuel = k + 1 := ⟨fuel - 1, by omega⟩
    by_cases small : n < 128
    · have byte : (UInt8.ofNat n).toNat = n := by simp; omega
      have room : n < 128 ^ (limit + 1 + 1) :=
        Nat.lt_of_lt_of_le small (Nat.le_self_pow (by omega) 128)
      simp [varintFuel, readVarint, byte, small, room]
    · have byte : (UInt8.ofNat (n % 128 + 128)).toNat = n % 128 + 128 := by simp; omega
      have high : ¬ n % 128 + 128 < 128 := by omega
      have shorter : n / 128 < 128 ^ (limit + 1) ↔ n < 128 ^ (limit + 1 + 1) := by
        rw [Nat.div_lt_iff_lt_mul (by decide), Nat.pow_succ 128 (limit + 1)]
      have whole : n % 128 + 128 - 128 + 128 * (n / 128) = n := by omega
      rw [varintFuel, if_neg small, List.cons_append, readVarint, byte, if_neg high,
        ih fuel (n / 128) (by omega)]
      simp only [shorter]
      split
      next => rw [Option.map_some, whole]
      next => rfl

namespace RawField

def Numbers (number : Nat) : Prop := 0 < number ∧ number < 0x20000000

instance (number : Nat) : Decidable (Numbers number) := inferInstanceAs (Decidable (_ ∧ _))

inductive Plain : RawField → Prop
  | varint {number value : Nat} (numbers : Numbers number)
      (small : value < 0x10000000000000000) : Plain (.varint number value)
  | bytes {number : Nat} {payload : List UInt8} (numbers : Numbers number) :
      Plain (.bytes number payload)

def Fits : RawField → Prop
  | .bytes _ payload => payload.length < 0x80000000
  | _ => True

instance (f : RawField) : Decidable f.Fits := by
  cases f <;> unfold Fits <;> infer_instance

theorem takeTag_tag {number form : Nat} (numbers : Numbers number) (low : form < 8)
    (rest : List UInt8) : takeTag (tag number form ++ rest) = some (number, form, rest) := by
  obtain ⟨positive, bounded⟩ := numbers
  have room : 8 * number + form < 128 ^ (4 + 1) := by omega
  have accepted : 8 * number + form < 0x100000000 := by omega
  have number_back : (8 * number + form) / 8 = number := by omega
  have form_back : (8 * number + form) % 8 = form := by omega
  rw [takeTag, tag, Wire.varint, readVarint_eq_ite 4 9 _ rest (by decide), if_pos room]
  simp only [Option.bind_eq_bind, Option.bind_some, accepted, number_back, form_back, positive,
    decide_true, Bool.and_self, if_true]

theorem takeSized_sized (payload rest : List UInt8) :
    takeSized (Wire.varint payload.length ++ (payload ++ rest)) =
      if payload.length < 0x80000000 then some (payload, rest) else none := by
  rw [takeSized, Wire.varint, readVarint_eq_ite 4 9 _ _ (by decide)]
  by_cases room : payload.length < 128 ^ (4 + 1)
  · rw [if_pos room]
    simp [takeBytes]
  · have long : ¬ payload.length < 0x80000000 := by omega
    rw [if_neg room, if_neg long]
    rfl

def takePayload (fuel depth number form : Nat) (bs : List UInt8) :
    Option (RawField × List UInt8) :=
  if form = 0 then
    (readVarint 10 bs).map fun (v, rest) => (.varint number (v % 0x10000000000000000), rest)
  else if form = 1 then (takeBytes 8 bs).map fun (p, rest) => (.fixed64 number p, rest)
  else if form = 2 then (takeSized bs).map fun (p, rest) => (.bytes number p, rest)
  else if form = 5 then (takeBytes 4 bs).map fun (p, rest) => (.fixed32 number p, rest)
  else if form = 3 then
    match depth with
    | 0 => none
    | depth + 1 =>
      (readFields fuel depth (some number) bs).map fun (fs, rest) => (.group number fs, rest)
  else none

theorem readFields_eq (fuel depth : Nat) (closing : Option Nat) (bs : List UInt8) :
    readFields (fuel + 1) depth closing bs =
      if bs.isEmpty then if closing.isNone then some ([], []) else none
      else (takeTag bs).bind fun (number, form, rest) =>
        if form = 4 then if closing = some number then some ([], rest) else none
        else (takePayload fuel depth number form rest).bind fun (f, rest) =>
          (readFields fuel depth closing rest).map fun (fields, rest) => (f :: fields, rest) := by
  rw [readFields]
  split
  next => rfl
  cases takeTag bs with
  | none => rfl
  | some tagged =>
    obtain ⟨number, form, rest⟩ := tagged
    have opened : takePayload fuel depth number form rest = _ := takePayload.eq_def ..
    simp only [opened, Option.bind_eq_bind, Option.bind_some, Option.map_eq_bind]
    split
    next => rfl
    -- The forms in the order in which the reader asks for them.
    split
    next => rfl
    split
    next => rfl
    split
    next => rfl
    split
    next => rfl
    split
    next => cases depth <;> rfl
    next => rfl

theorem readFields_cases {fuel depth : Nat} {closing : Option Nat} {bs rest : List UInt8}
    {fields : List RawField}
    (read : readFields (fuel + 1) depth closing bs = some (fields, rest)) :
    (bs = [] ∧ closing = none ∧ fields = [] ∧ rest = []) ∨
    (∃ number, takeTag bs = some (number, 4, rest) ∧ closing = some number ∧ fields = []) ∨
    ∃ number form body f later others, takeTag bs = some (number, form, body) ∧ form ≠ 4 ∧
      takePayload fuel depth number form body = some (f, later) ∧
      readFields fuel depth closing later = some (others, rest) ∧ fields = f :: others := by
  rw [readFields_eq] at read
  split at read
  next empty =>
    split at read
    next outside =>
      cases read
      exact .inl ⟨List.isEmpty_iff.1 empty, Option.isNone_iff_eq_none.1 outside, rfl, rfl⟩
    next => cases read
  next =>
    obtain ⟨⟨number, form, body⟩, tagged, read⟩ := Option.bind_eq_some_iff.1 read
    simp only at read
    split at read
    next closes =>
      subst closes
      split at read
      next own =>
        cases read
        exact .inr (.inl ⟨number, tagged, own, rfl⟩)
      next => cases read
    next opens =>
      obtain ⟨⟨f, later⟩, taken, left⟩ := Option.bind_eq_some_iff.1 read
      obtain ⟨⟨others, rest⟩, after, made⟩ := Option.map_eq_some_iff.1 left
      cases made
      exact .inr (.inr ⟨number, form, body, f, later, others, tagged, opens, taken, after, rfl⟩)

theorem readFields_of_takeTag {number form : Nat} {bs body : List UInt8}
    (tagged : takeTag bs = some (number, form, body)) (opens : form ≠ 4) (fuel depth : Nat)
    (closing : Option Nat) :
    readFields (fuel + 1) depth closing bs =
      (takePayload fuel depth number form body).bind fun (f, rest) =>
        (readFields fuel depth closing rest).map fun (fields, rest) => (f :: fields, rest) := by
  cases bs with
  | nil => cases tagged
  | cons b rest =>
    rw [readFields_eq, tagged]
    simp only [List.isEmpty_cons, Bool.false_eq_true, if_false, Option.bind_some, if_neg opens]

theorem readFields_tag {number form : Nat} (numbers : Numbers number) (low : form < 8)
    (opens : form ≠ 4) (fuel depth : Nat) (closing : Option Nat) (rest : List UInt8) :
    readFields (fuel + 1) depth closing (tag number form ++ rest) =
      (takePayload fuel depth number form rest).bind fun (f, rest) =>
        (readFields fuel depth closing rest).map fun (fields, rest) => (f :: fields, rest) :=
  readFields_of_takeTag (takeTag_tag numbers low rest) opens fuel depth closing

theorem readFields_cons {f : RawField} (plain : f.Plain) (fuel depth : Nat) (closing : Option Nat)
    (rest : List UInt8) :
    readFields (fuel + 1) depth closing (toBytes f ++ rest) =
      if f.Fits then
        (readFields fuel depth closing rest).map fun (fields, rest) => (f :: fields, rest)
      else none := by
  cases plain with
  | @varint number value numbers small =>
    have taken : takePayload fuel depth number 0 (Wire.varint value ++ rest) =
        some (.varint number value, rest) := by
      rw [takePayload.eq_def, if_pos rfl, readVarint_varint 10 value rest small (by decide),
        Option.map_some]
      simp only [Nat.mod_eq_of_lt small]
    rw [toBytes, List.append_assoc, readFields_tag numbers (by decide) (by decide), taken,
      Option.bind_some, if_pos (show Fits (.varint number value) from trivial)]
  | @bytes number payload numbers =>
    have taken : takePayload fuel depth number 2
        (Wire.varint payload.length ++ (payload ++ rest)) =
        if payload.length < 0x80000000 then some (.bytes number payload, rest) else none := by
      rw [takePayload.eq_def, if_neg (by decide), if_neg (by decide), if_pos rfl, takeSized_sized]
      split <;> rfl
    rw [toBytes, List.append_assoc, List.append_assoc,
      readFields_tag numbers (by decide) (by decide), taken]
    by_cases fits : payload.length < 0x80000000
    · rw [if_pos fits, Option.bind_some, if_pos (show Fits (.bytes number payload) from fits)]
    · rw [if_neg fits, Option.bind_none, if_neg (show ¬ Fits (.bytes number payload) from fits)]

theorem toBytes_ne_nil (f : RawField) : toBytes f ≠ [] := by
  cases f <;> simp [toBytes, tag, varint_ne_nil]

theorem length_le_listToBytes (fields : List RawField) :
    fields.length ≤ (listToBytes fields).length := by
  induction fields with
  | nil => exact Nat.le_refl _
  | cons f fields ih =>
    have first : 0 < (toBytes f).length := List.length_pos_iff.2 (toBytes_ne_nil f)
    rw [listToBytes, List.length_cons, List.length_append]
    omega

theorem readFields_listToBytes {fields : List RawField} (plain : ∀ f ∈ fields, f.Plain)
    {fuel : Nat} (enough : fields.length < fuel) (depth : Nat) :
    readFields fuel depth none (listToBytes fields) =
      if ∀ f ∈ fields, f.Fits then some (fields, []) else none := by
  -- Every field takes one unit of fuel, and the end of the input takes one more.
  induction fields generalizing fuel with
  | nil =>
    obtain ⟨fuel, rfl⟩ := Nat.exists_eq_add_of_lt enough
    rfl
  | cons f fields ih =>
    obtain ⟨own, others⟩ := List.forall_mem_cons.1 plain
    obtain ⟨fuel, rfl⟩ : ∃ k, fuel = k + 1 := ⟨fuel - 1, by omega⟩
    have left : fields.length < fuel := Nat.lt_of_succ_lt_succ enough
    rw [listToBytes, readFields_cons own, ih others left]
    by_cases fits : f.Fits <;> by_cases rest : ∀ g ∈ fields, g.Fits <;>
      simp [fits, rest]

end RawField

theorem rawFields_listToBytes {fields : List RawField} (plain : ∀ f ∈ fields, f.Plain)
    (depth : Nat) :
    rawFields depth (RawField.listToBytes fields) =
      if ∀ f ∈ fields, f.Fits then some fields else none := by
  have enough := Nat.lt_succ_of_le (RawField.length_le_listToBytes fields)
  rw [rawFields, RawField.readFields_listToBytes plain enough]
  split <;> rfl

namespace RawField

-- Fields inside a payload that fits all fit themselves.
theorem fits_of_listToBytes {fields : List RawField}
    (short : (listToBytes fields).length < 0x80000000) : ∀ f ∈ fields, f.Fits := by
  induction fields with
  | nil => exact List.forall_mem_nil _
  | cons f fields ih =>
    rw [listToBytes, List.length_append] at short
    refine List.forall_mem_cons.2 ⟨?_, ih (by omega)⟩
    cases f with
    | bytes number payload =>
      have inside : payload.length ≤ (toBytes (.bytes number payload)).length := by
        rw [toBytes, List.length_append]
        exact Nat.le_add_left _ _
      exact Nat.lt_of_le_of_lt inside (by omega)
    | _ => trivial

end RawField

end BackupConsole.Wire
