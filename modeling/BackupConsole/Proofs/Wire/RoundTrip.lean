import BackupConsole.Contract
import BackupConsole.Proofs.Wire.Fields
import Mathlib.Data.List.Nodup

set_option autoImplicit false

namespace BackupConsole.Wire

variable {α σ τ : Type}

theorem toList_loop (bytes : ByteArray) (i : Nat) (before : List UInt8) :
    ByteArray.toList.loop bytes i before = before.reverse ++ bytes.data.toList.drop i := by
  induction i, before using ByteArray.toList.loop.induct bytes with
  | case1 i before inside ih =>
    have place : i < bytes.data.toList.length := inside
    rw [ByteArray.toList.loop, if_pos inside, ih, List.drop_eq_getElem_cons place]
    simp [ByteArray.get!, inside]
  | case2 i before outside =>
    have beyond : bytes.data.toList.length ≤ i := Nat.not_lt.1 outside
    rw [ByteArray.toList.loop, if_neg outside, List.drop_eq_nil_of_le beyond, List.append_nil]

theorem toList_toUTF8 (s : String) : s.toUTF8.toList = s.toUTF8.data.toList := by
  rw [ByteArray.toList, toList_loop]
  rfl

theorem utf8?_toUTF8 (s : String) : Given.utf8? s.toUTF8.toList = some s := by
  rw [Given.utf8?, toList_toUTF8, Array.toArray_toList]
  exact dif_pos s.isValidUTF8

theorem length_toUTF8 (s : String) : s.toUTF8.toList.length = s.utf8ByteSize := by
  rw [toList_toUTF8]
  rfl

theorem ofNat_code_int64 (v : Int64) : Int64.ofNat (Leaf.code v.toInt) = v := by
  rw [Leaf.code, ← Int64.ofInt_eq_ofNat, Int.toNat_of_nonneg (Int.emod_nonneg _ (by decide)),
    Int64.ofInt_eq_iff_bmod_eq_toInt, Int.bmod_def]
  have low := Int64.le_toInt v
  have high := Int64.toInt_lt v
  split <;> omega

theorem ofNat_code_int32 (v : Int32) : Int32.ofNat (Leaf.code v.toInt) = v := by
  rw [Leaf.code, ← Int32.ofInt_eq_ofNat, Int.toNat_of_nonneg (Int.emod_nonneg _ (by decide)),
    Int32.ofInt_eq_iff_bmod_eq_toInt, Int.bmod_def]
  have low := Int32.le_toInt v
  have high := Int32.toInt_lt v
  split <;> omega

open RawField (Numbers Plain Fits listToBytes)

theorem foldlM_lift {step : σ → α → Option σ} {wide : τ → α → Option τ} (lift : σ → τ)
    {items : List α} (each : ∀ a ∈ items, ∀ s, wide (lift s) a = (step s a).map lift) (s : σ) :
    items.foldlM wide (lift s) = (items.foldlM step s).map lift := by
  induction items generalizing s with
  | nil => rfl
  | cons a items ih =>
    obtain ⟨own, others⟩ := List.forall_mem_cons.1 each
    rw [List.foldlM_cons, List.foldlM_cons, own]
    cases step s a with
    | none => rfl
    | some next => exact ih others next

-- Fields of a first part and fields of the rest are put in apart from one another.
theorem foldlM_pair {β γ : Type} {number : Nat} {put : β × γ → RawField → Option (β × γ)}
    {putFirst : β → RawField → Option β} {putRest : γ → RawField → Option γ}
    (own : ∀ raw : RawField, raw.number = number →
      ∀ b c, put (b, c) raw = (putFirst b raw).map fun b => (b, c))
    (other : ∀ raw : RawField, raw.number ≠ number →
      ∀ b c, put (b, c) raw = (putRest c raw).map fun c => (b, c))
    {first rest : List RawField} (owns : ∀ raw ∈ first, raw.number = number)
    (others : ∀ raw ∈ rest, raw.number ≠ number) {b b' : β} {c c' : γ}
    (done : first.foldlM putFirst b = some b') (left : rest.foldlM putRest c = some c') :
    (first ++ rest).foldlM put (b, c) = some (b', c') := by
  have before : first.foldlM put (b, c) = some (b', c) := by
    rw [foldlM_lift (fun b => (b, c)) fun raw given b => own raw (owns raw given) b c, done]
    rfl
  have after : rest.foldlM put (b', c) = some (b', c') := by
    rw [foldlM_lift (fun c => (b', c)) fun raw given c => other raw (others raw given) b' c, left]
    rfl
  rw [List.foldlM_append, before]
  exact after

namespace Leaf

def Effect.onto (old : α) : Effect α → Option α
  | skip => some old
  | set new => some new
  | broken => none

theorem code_lt (n : Int) : code n < 0x10000000000000000 := by
  unfold code
  omega

theorem give_cases (l : Leaf) (number : Nat) (v : l.Value) :
    (l.give number v = [] ∧ v = l.default) ∨
    ∃ raw, l.give number v = [raw] ∧ raw.number = number ∧ l.take raw = .set v ∧
      (Numbers number → raw.Plain) := by
  cases l with
  | text =>
    by_cases empty : v = ""
    · exact .inl ⟨if_pos empty, empty⟩
    · refine .inr ⟨_, if_neg empty, rfl, ?_, .bytes⟩
      simp only [take, utf8?_toUTF8]
  | int64 =>
    by_cases zero : v = 0
    · exact .inl ⟨if_pos zero, zero⟩
    · refine .inr ⟨_, if_neg zero, rfl, ?_, fun numbers => .varint numbers (code_lt _)⟩
      simp only [take, ofNat_code_int64]
  | bool =>
    cases v with
    | false => exact .inl ⟨rfl, rfl⟩
    | true => exact .inr ⟨_, rfl, rfl, rfl, fun numbers => .varint numbers (by decide)⟩
  | enum e =>
    by_cases zero : v = 0
    · exact .inl ⟨if_pos zero, zero⟩
    · refine .inr ⟨_, if_neg zero, rfl, ?_, fun numbers => .varint numbers (code_lt _)⟩
      simp only [take, ofNat_code_int32]

variable {l : Leaf} {number : Nat} {v : l.Value}

theorem number_of_give : ∀ raw ∈ l.give number v, raw.number = number := by
  rcases l.give_cases number v with ⟨none, _⟩ | ⟨raw, one, own, _⟩
  · simp [none]
  · simp [one, own]

theorem plain_of_give (numbers : Numbers number) : ∀ raw ∈ l.give number v, raw.Plain := by
  rcases l.give_cases number v with ⟨none, _⟩ | ⟨raw, one, _, _, plain⟩
  · simp [none]
  · simp [one, plain numbers]

def Short : (l : Leaf) → l.Value → Prop
  | text, v => v.utf8ByteSize < 0x80000000
  | _, _ => True

theorem fits_give_iff : (∀ raw ∈ l.give number v, raw.Fits) ↔ l.Short v := by
  cases l with
  | text =>
    by_cases empty : v = ""
    · subst empty
      exact iff_of_true (List.forall_mem_nil _) (by decide : _ < _)
    · have written : text.give number v = [.bytes number v.toUTF8.toList] := if_neg empty
      rw [written, List.forall_mem_singleton, Fits, length_toUTF8]
      rfl
  | bool => cases v <;> simp [give, Short, Fits]
  | int64 => by_cases zero : v = 0 <;> simp [give, Short, Fits, zero]
  | enum e => by_cases zero : v = 0 <;> simp [give, Short, Fits, zero]

theorem foldlM_give (l : Leaf) (number : Nat) (v : l.Value) :
    (l.give number v).foldlM (fun old raw => (l.take raw).onto old) l.default = some v := by
  rcases l.give_cases number v with ⟨none, default⟩ | ⟨raw, one, _, taken, _⟩
  · rw [none, default]
    rfl
  · rw [one, List.foldlM_cons, taken]
    rfl

end Leaf

namespace Row

variable {f : LeafField} {fs : List LeafField}

theorem put_own {raw : RawField} (own : raw.number = f.number) (v : f.leaf.Value) (rest : Row fs) :
    put (f :: fs) (v, rest) raw = ((f.leaf.take raw).onto v).map fun w => (w, rest) := by
  rw [put, if_pos own]
  cases f.leaf.take raw <;> rfl

theorem put_other {raw : RawField} (other : raw.number ≠ f.number) (v : f.leaf.Value)
    (rest : Row fs) :
    put (f :: fs) (v, rest) raw = (put fs rest raw).map fun rest => (v, rest) := by
  rw [put, if_neg other]

theorem number_of_give {row : Row fs} :
    ∀ raw ∈ give fs row, raw.number ∈ fs.map LeafField.number := by
  induction fs with
  | nil => simp [give]
  | cons f fs ih =>
    obtain ⟨v, rest⟩ := row
    intro raw given
    rcases List.mem_append.1 given with own | other
    · exact List.mem_cons.2 (.inl (Leaf.number_of_give raw own))
    · exact List.mem_cons.2 (.inr (ih raw other))

theorem plain_of_give (numbers : ∀ f ∈ fs, Numbers f.number) {row : Row fs} :
    ∀ raw ∈ give fs row, raw.Plain := by
  induction fs with
  | nil => simp [give]
  | cons f fs ih =>
    obtain ⟨v, rest⟩ := row
    obtain ⟨own, others⟩ := List.forall_mem_cons.1 numbers
    exact List.forall_mem_append.2 ⟨Leaf.plain_of_give own, ih others⟩

theorem putAll_give (distinct : (fs.map LeafField.number).Nodup) (row : Row fs) :
    putAll fs (empty fs) (give fs row) = some row := by
  induction fs with
  | nil => rfl
  | cons f fs ih =>
    obtain ⟨v, rest⟩ := row
    obtain ⟨fresh, distinct⟩ := List.nodup_cons.1 distinct
    -- No later field has the first number, so the rest is put in as if it were alone.
    have others (raw : RawField) (given : raw ∈ give fs rest) : raw.number ≠ f.number :=
      fun same => fresh (same ▸ number_of_give raw given)
    exact foldlM_pair (fun raw => put_own) (fun raw => put_other) Leaf.number_of_give others
      (f.leaf.foldlM_give f.number v) (ih distinct rest)

theorem merge_give (distinct : (fs.map LeafField.number).Nodup)
    (numbers : ∀ f ∈ fs, Numbers f.number) (row : Row fs) (depth : Nat)
    (short : (listToBytes (give fs row)).length < 0x80000000) :
    merge fs (empty fs) depth (listToBytes (give fs row)) = some row := by
  rw [merge, rawFields_listToBytes (plain_of_give numbers),
    if_pos (RawField.fits_of_listToBytes short)]
  exact putAll_give distinct row

end Row

namespace Kind

def Sound : Kind → Prop
  | leaf _ => True
  | message _ fs | messages _ fs =>
    (fs.map LeafField.number).Nodup ∧ ∀ f ∈ fs, Numbers f.number

theorem number_of_give {k : Kind} {number : Nat} {v : k.Value} :
    ∀ raw ∈ k.give number v, raw.number = number := by
  cases k with
  | leaf l => exact Leaf.number_of_give
  | message name fs => cases v <;> simp [give, RawField.number]
  | messages name fs => simp [give, RawField.number]

theorem plain_of_give {k : Kind} {number : Nat} (numbers : Numbers number) {v : k.Value} :
    ∀ raw ∈ k.give number v, raw.Plain := by
  cases k with
  | leaf l => exact Leaf.plain_of_give numbers
  | message name fs => cases v <;> simp [give, Plain.bytes numbers]
  | messages name fs => simp [give, Plain.bytes numbers]

theorem foldlM_give {k : Kind} (sound : k.Sound) {number : Nat} {v : k.Value}
    (fits : ∀ raw ∈ k.give number v, raw.Fits) :
    (k.give number v).foldlM (fun old raw => (k.take old raw).onto old) k.default = some v := by
  cases k with
  | leaf l => exact l.foldlM_give number v
  | message name fs =>
    cases v with
    | none => rfl
    -- An empty row is still written, with no bytes, and so differs from an absent one.
    | some row =>
      have short := fits _ (List.mem_singleton.2 rfl)
      have merged := Row.merge_give sound.1 sound.2 row (maxDepth - 1) short
      have taken : (message name fs).take none (.bytes number (listToBytes (Row.give fs row))) =
          .set (some row) := by
        simp only [take, Option.getD_none, merged]
      rw [give, List.foldlM_cons, default, taken]
      rfl
  | messages name fs =>
    -- Each row is put after those that are there.
    suffices added : ∀ before : List (Row fs), ((messages name fs).give number v).foldlM
        (fun old raw => ((messages name fs).take old raw).onto old) before = some (before ++ v) from
      added []
    induction v with
    | nil => simp [give]
    | cons row rows ih =>
      intro before
      obtain ⟨short, others⟩ := List.forall_mem_cons.1 fits
      have merged := Row.merge_give sound.1 sound.2 row (maxDepth - 1) short
      have taken : (messages name fs).take before (.bytes number (listToBytes (Row.give fs row))) =
          .set (before ++ [row]) := by
        simp only [take, merged]
      have rest := ih others (before ++ [row])
      rw [List.append_assoc] at rest
      rw [give, List.map_cons, List.foldlM_cons, taken]
      exact rest

end Kind

namespace Message

variable {f : Field} {fs : List Field}

structure Sound (fs : List Field) : Prop where
  distinct : (fs.map Field.number).Nodup
  numbers : ∀ f ∈ fs, Numbers f.number
  inner : ∀ f ∈ fs, f.kind.Sound

def Fits {fs : List Field} (m : Message fs) : Prop := ∀ raw ∈ give fs m, raw.Fits

theorem put_own {raw : RawField} (own : raw.number = f.number) (v : f.kind.Value)
    (rest : Message fs) :
    put (f :: fs) (v, rest) raw = ((f.kind.take v raw).onto v).map fun w => (w, rest) := by
  rw [put, if_pos own]
  cases f.kind.take v raw <;> rfl

theorem put_other {raw : RawField} (other : raw.number ≠ f.number) (v : f.kind.Value)
    (rest : Message fs) :
    put (f :: fs) (v, rest) raw = (put fs rest raw).map fun rest => (v, rest) := by
  rw [put, if_neg other]

theorem number_of_give {m : Message fs} :
    ∀ raw ∈ give fs m, raw.number ∈ fs.map Field.number := by
  induction fs with
  | nil => simp [give]
  | cons f fs ih =>
    obtain ⟨v, rest⟩ := m
    intro raw given
    rcases List.mem_append.1 given with own | other
    · exact List.mem_cons.2 (.inl (Kind.number_of_give raw own))
    · exact List.mem_cons.2 (.inr (ih raw other))

theorem plain_of_give (numbers : ∀ f ∈ fs, Numbers f.number) {m : Message fs} :
    ∀ raw ∈ give fs m, raw.Plain := by
  induction fs with
  | nil => simp [give]
  | cons f fs ih =>
    obtain ⟨v, rest⟩ := m
    obtain ⟨own, others⟩ := List.forall_mem_cons.1 numbers
    exact List.forall_mem_append.2 ⟨Kind.plain_of_give own, ih others⟩

theorem foldlM_give (sound : Sound fs) {m : Message fs} (fits : m.Fits) :
    (give fs m).foldlM (put fs) (empty fs) = some m := by
  induction fs with
  | nil => rfl
  | cons f fs ih =>
    obtain ⟨v, rest⟩ := m
    obtain ⟨distinct, numbers, inner⟩ := sound
    obtain ⟨fresh, distinct⟩ := List.nodup_cons.1 distinct
    obtain ⟨firstFits, restFits⟩ := List.forall_mem_append.1 fits
    obtain ⟨firstSound, restSound⟩ := List.forall_mem_cons.1 inner
    have others (raw : RawField) (given : raw ∈ give fs rest) : raw.number ≠ f.number :=
      fun same => fresh (same ▸ number_of_give raw given)
    have left := ih ⟨distinct, (List.forall_mem_cons.1 numbers).2, restSound⟩ restFits
    exact foldlM_pair (fun raw => put_own) (fun raw => put_other) Kind.number_of_give others
      (Kind.foldlM_give firstSound firstFits) left

theorem decode_encode (sound : Sound fs) {m n : Message fs} :
    decode fs (encode fs m) = some n ↔ n = m ∧ m.Fits := by
  rw [decode, encode, rawFields_listToBytes (plain_of_give sound.numbers)]
  by_cases fits : m.Fits
  · have back := foldlM_give sound fits
    rw [if_pos (show ∀ raw ∈ give fs m, raw.Fits from fits)]
    simp [back, fits, eq_comm]
  · rw [if_neg (show ¬ ∀ raw ∈ give fs m, raw.Fits from fits)]
    simp [fits]

end Message

end BackupConsole.Wire

namespace BackupConsole.Contract

open Wire

instance (k : Kind) : Decidable k.Sound :=
  match k with
  | .leaf _ => isTrue trivial
  | .message _ _ | .messages _ _ => inferInstanceAs (Decidable (_ ∧ _))

theorem MessageType.sound (t : MessageType) : Message.Sound t.fields where
  distinct := by cases t <;> decide
  numbers := by cases t <;> decide
  inner := by cases t <;> decide

theorem decode_encode {t : MessageType} {m n : Msg t} :
    decode t (encode m) = some n ↔ n = m ∧ m.Fits :=
  Message.decode_encode t.sound

example : encode (t := .metadataFile) ("", none, ()) = [] ∧
    encode (t := .metadataFile) ("", some (Row.empty backupMetadataFields), ()) = [18, 0] := by
  decide

end BackupConsole.Contract
