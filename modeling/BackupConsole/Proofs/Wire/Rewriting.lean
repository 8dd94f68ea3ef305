import BackupConsole.Proofs.Wire.Distinct

set_option autoImplicit false

namespace BackupConsole.Wire

structure Orderly (raws : List RawField) (unset : Nat → Prop) : Prop where
  ascending : raws.Pairwise fun a b => a.number ≤ b.number
  omits : ∀ number, (∀ raw ∈ raws, raw.number ≠ number) ↔ unset number

theorem Orderly.nil : Orderly [] fun _ => True where
  ascending := .nil
  omits _ := iff_of_true (List.forall_mem_nil _) trivial

theorem Orderly.append {own : Nat} {first rest : List RawField} {default : Prop}
    {unset : Nat → Prop} (owns : ∀ raw ∈ first, raw.number = own)
    (above : ∀ raw ∈ rest, own < raw.number) (none : first = [] ↔ default)
    (left : Orderly rest unset) :
    Orderly (first ++ rest) fun number => (number = own → default) ∧ unset number where
  ascending := by
    refine List.pairwise_append.2 ⟨?_, left.ascending, fun a given b later => ?_⟩
    · exact List.pairwise_of_forall_mem_list fun a given b later =>
        Nat.le_of_eq ((owns a given).trans (owns b later).symm)
    · have lower := owns a given
      have upper := above b later
      omega
  omits number := by
    rw [List.forall_mem_append, left.omits, ← none]
    refine and_congr_left' ⟨fun unwritten same => ?_, fun empty raw given same => ?_⟩
    · exact List.eq_nil_iff_forall_not_mem.2 fun raw given =>
        unwritten raw given ((owns raw given).trans same.symm)
    · rw [empty (same.symm.trans (owns raw given))] at given
      cases given

theorem Leaf.give_eq_nil_iff {l : Leaf} {number : Nat} {v : l.Value} :
    l.give number v = [] ↔ v = l.default := by
  constructor
  · intro unwritten
    rcases l.give_cases number v with ⟨-, default⟩ | ⟨raw, one, -⟩
    · exact default
    · rw [one] at unwritten
      cases unwritten
  · rintro rfl
    cases l <;> rfl

def Row.IsDefault : (fs : List LeafField) → Row fs → Nat → Prop
  | [], _, _ => True
  | f :: fs, (v, rest), number =>
    (number = f.number → v = f.leaf.default) ∧ IsDefault fs rest number

theorem Row.orderly_give {fs : List LeafField}
    (ascending : (fs.map LeafField.number).Pairwise (· < ·)) (row : Row fs) :
    Orderly (give fs row) (IsDefault fs row) := by
  induction fs with
  | nil => exact .nil
  | cons f fs ih =>
    obtain ⟨lowest, ascending⟩ := List.pairwise_cons.1 ascending
    exact .append Leaf.number_of_give (fun raw given => lowest _ (number_of_give raw given))
      Leaf.give_eq_nil_iff (ih ascending row.2)

theorem Kind.give_eq_nil_iff {k : Kind} {number : Nat} {v : k.Value} :
    k.give number v = [] ↔ v = k.default := by
  cases k with
  | leaf l => exact Leaf.give_eq_nil_iff
  | message name fs => cases v <;> simp [give, default]
  | messages name fs => simp [give, default]

def Message.IsDefault : (fs : List Field) → Message fs → Nat → Prop
  | [], _, _ => True
  | f :: fs, (v, rest), number =>
    (number = f.number → v = f.kind.default) ∧ IsDefault fs rest number

theorem Message.orderly_give {fs : List Field} (ascending : (fs.map Field.number).Pairwise (· < ·))
    (m : Message fs) : Orderly (give fs m) (IsDefault fs m) := by
  induction fs with
  | nil => exact .nil
  | cons f fs ih =>
    obtain ⟨lowest, ascending⟩ := List.pairwise_cons.1 ascending
    exact .append Kind.number_of_give (fun raw given => lowest _ (number_of_give raw given))
      Kind.give_eq_nil_iff (ih ascending m.2)

end BackupConsole.Wire

namespace BackupConsole.Contract

open Wire

theorem MessageType.ascending (t : MessageType) :
    (t.fields.map Field.number).Pairwise (· < ·) := by
  cases t <;> decide

theorem MessageType.narrow (t : MessageType) : ∀ f ∈ t.fields, f.kind.width ≤ 7 := by
  cases t <;> decide

/-- What a message that was read is written as can be read again. The few bytes that are spared are
for numbers that were read at less than their full length. -/
theorem fits_of_decode {t : MessageType} {bs : List UInt8} {m : Msg t}
    (read : decode t bs = some m) (short : bs.length < 0x7fffff00) : m.Fits := by
  have held := Message.held_decode_le read
  exact Message.fits_of_held (fun f listed => ⟨t.sound.inner f listed, t.narrow f listed⟩)
    (by omega)

structure RoundTrips (t : MessageType) : Prop where
  returned : ∀ m n : Msg t, decode t (encode m) = some n ↔ n = m ∧ m.Fits
  returned_short : ∀ m : Msg t, (encode m).length < 0x80000000 → decode t (encode m) = some m
  rewritten : ∀ bs m, decode t bs = some m → bs.length < 0x7fffff00 →
    decode t (encode m) = some m
  told_apart : ∀ m n : Msg t, (encode m).length < 0x10000000000000000 →
    (encode m = encode n ↔ m = n)
  written : ∀ m : Msg t, ∃ raws, encode m = RawField.listToBytes raws ∧
    Orderly raws (Message.IsDefault t.fields m)
  written_inside : ∀ fs ∈ [backupMetadataFields, errorFields], ∀ row : Row fs,
    Orderly (Row.give fs row) (Row.IsDefault fs row)

/-- Messages of the contract come back from their bytes, those that were made as well as those that
were read from other bytes. Nothing but a part of 2 GiB is in the way. -/
theorem messages_round_trip (t : MessageType) : RoundTrips t where
  returned _ _ := decode_encode
  returned_short _ short := decode_encode.2 ⟨rfl, RawField.fits_of_listToBytes short⟩
  rewritten _ _ read short := decode_encode.2 ⟨rfl, fits_of_decode read short⟩
  told_apart _ _ short := encode_inj short
  written m := ⟨_, rfl, Message.orderly_give t.ascending m⟩
  written_inside fs inside row := by
    have ascending : ∀ fs ∈ [backupMetadataFields, errorFields],
        (fs.map LeafField.number).Pairwise (· < ·) := by
      decide
    exact Row.orderly_give (ascending fs inside) row

/-- A number spelled in two bytes, its message in two parts, a field unknown here and an empty
name that is written all the same. -/
theorem rewritten_canonically :
    decode .metadataFile [18, 3, 8, 133, 0, 120, 1, 18, 2, 24, 1, 10, 0] =
      some ("", some (5, 0, 1, 0, 0, "", "", ()), ()) ∧
    decode .metadataFile (encode (t := .metadataFile) ("", some (5, 0, 1, 0, 0, "", "", ()), ())) =
      some ("", some (5, 0, 1, 0, 0, "", "", ()), ()) := by
  have read : decode .metadataFile [18, 3, 8, 133, 0, 120, 1, 18, 2, 24, 1, 10, 0] =
      some ("", some (5, 0, 1, 0, 0, "", "", ()), ()) := by
    rfl
  exact ⟨read, (messages_round_trip .metadataFile).rewritten _ _ read (by decide)⟩

end BackupConsole.Contract
