import BackupConsole.Proofs.Wire.RoundTrip
import Mathlib.Algebra.GroupWithZero.Nat
import Mathlib.Algebra.Order.BigOperators.Group.List
import Mathlib.Algebra.Order.Group.Nat

set_option autoImplicit false

namespace BackupConsole.Wire

variable {α σ : Type}

theorem length_varintFuel_le (fuel n : Nat) : (varintFuel fuel n).length ≤ fuel + 1 := by
  induction fuel generalizing n with
  | zero => simp [varintFuel]
  | succ fuel ih =>
    rw [varintFuel]
    split
    next => simp
    next => simpa using ih (n / 128)

theorem length_varint_le (n : Nat) : (varint n).length ≤ 10 := length_varintFuel_le 9 n

theorem size_foldlM_le {step : σ → α → Option σ} {size : σ → Nat} {weight : α → Nat}
    {items : List α} {s t : σ} (folded : items.foldlM step s = some t)
    (each : ∀ s a t, step s a = some t → size t ≤ size s + weight a) :
    size t ≤ size s + (items.map weight).sum := by
  induction items generalizing s with
  | nil =>
    cases folded
    exact Nat.le_refl _
  | cons a items ih =>
    rw [List.foldlM_cons] at folded
    obtain ⟨next, first, rest⟩ := Option.bind_eq_some_iff.1 folded
    have grown := each s a next first
    have after := ih rest
    rw [List.map_cons, List.sum_cons]
    omega

namespace RawField

def held : RawField → Nat
  | .bytes _ payload => payload.length
  | _ => 0

variable {fuel depth number form n : Nat} {closing : Option Nat} {bs rest p : List UInt8}
  {f : RawField} {fields : List RawField}

theorem takeBytes_length (taken : takeBytes n bs = some (p, rest)) :
    p.length + rest.length = bs.length := by
  rw [takeBytes] at taken
  split at taken
  next enough =>
    cases taken
    simp [enough]
  next => cases taken

theorem takeSized_length (taken : takeSized bs = some (p, rest)) :
    p.length + rest.length < bs.length := by
  obtain ⟨⟨n, body⟩, read, taken⟩ := Option.bind_eq_some_iff.1 taken
  have shorter := readVarint_length read
  simp only at taken
  split at taken
  next =>
    have whole := takeBytes_length taken
    omega
  next => cases taken

theorem takeTag_length (taken : takeTag bs = some (number, form, rest)) :
    rest.length < bs.length := by
  obtain ⟨⟨t, body⟩, read, taken⟩ := Option.bind_eq_some_iff.1 taken
  have shorter := readVarint_length read
  simp only at taken
  split at taken
  next =>
    cases taken
    exact shorter
  next => cases taken

theorem length_of_built {π : Type} {reader : Option (π × List UInt8)} (build : π → RawField)
    (each : ∀ p rest, reader = some (p, rest) → (build p).held + rest.length ≤ bs.length)
    (taken : (reader.map fun (p, rest) => (build p, rest)) = some (f, rest)) :
    f.held + rest.length ≤ bs.length := by
  obtain ⟨⟨p, later⟩, read, made⟩ := Option.map_eq_some_iff.1 taken
  cases made
  exact each p _ read

theorem takePayload_length
    (inner : ∀ {depth closing bs fields rest},
      readFields fuel depth closing bs = some (fields, rest) → rest.length ≤ bs.length)
    (taken : takePayload fuel depth number form bs = some (f, rest)) :
    f.held + rest.length ≤ bs.length := by
  rw [takePayload.eq_def] at taken
  split at taken
  next =>
    refine length_of_built (fun v => .varint number (v % 0x10000000000000000))
      (fun v rest read => ?_) taken
    have shorter := readVarint_length read
    simp only [held]
    omega
  split at taken
  next =>
    refine length_of_built (.fixed64 number) (fun p rest read => ?_) taken
    have whole := takeBytes_length read
    simp only [held]
    omega
  split at taken
  next =>
    refine length_of_built (.bytes number) (fun p rest read => ?_) taken
    exact Nat.le_of_lt (takeSized_length read)
  split at taken
  next =>
    refine length_of_built (.fixed32 number) (fun p rest read => ?_) taken
    have whole := takeBytes_length read
    simp only [held]
    omega
  split at taken
  next =>
    cases depth with
    | zero => cases taken
    | succ depth =>
      refine length_of_built (.group number) (fun fs rest read => ?_) taken
      simpa [held] using inner read
  next => cases taken

theorem held_readFields_le (read : readFields fuel depth closing bs = some (fields, rest)) :
    (fields.map held).sum + rest.length ≤ bs.length := by
  -- What is inside a group uses up bytes, but it is not text of the message.
  induction fuel generalizing depth closing bs fields rest with
  | zero => cases read
  | succ fuel ih =>
    rcases readFields_cases read with ⟨rfl, -, rfl, rfl⟩ | ⟨number, tagged, -, rfl⟩ |
      ⟨number, form, body, f, later, others, tagged, -, taken, left, rfl⟩
    · exact Nat.le_refl _
    · have shorter := takeTag_length tagged
      simp only [List.map_nil, List.sum_nil]
      omega
    · have shorter := takeTag_length tagged
      have first := takePayload_length (fun inside => Nat.le_of_add_left_le (ih inside)) taken
      have after := ih left
      rw [List.map_cons, List.sum_cons]
      omega

end RawField

theorem held_rawFields_le {depth : Nat} {bs : List UInt8} {fields : List RawField}
    (read : rawFields depth bs = some fields) : (fields.map RawField.held).sum ≤ bs.length := by
  obtain ⟨⟨fields, rest⟩, whole, rfl⟩ := Option.map_eq_some_iff.1 read
  exact Nat.le_of_add_right_le (RawField.held_readFields_le whole)

theorem utf8?_length {bs : List UInt8} {s : String} (read : Given.utf8? bs = some s) :
    s.utf8ByteSize = bs.length := by
  rw [Given.utf8?, String.fromUTF8?] at read
  split at read
  next =>
    cases read
    rfl
  next => cases read

theorem size_onto_le {size : α → Nat} {weight : Nat} {effect : Leaf.Effect α} {old new : α}
    (sets : ∀ a, effect = .set a → size a ≤ size old + weight)
    (done : effect.onto old = some new) : size new ≤ size old + weight := by
  cases effect with
  | skip =>
    cases done
    exact Nat.le_add_right _ _
  | set a =>
    cases done
    exact sets _ rfl
  | broken => cases done

open RawField (Numbers Plain Fits listToBytes)

namespace RawField

-- What is not text takes twenty bytes at most: a tag, and a number or a length.
theorem Plain.length_toBytes_le {f : RawField} (plain : f.Plain) :
    (toBytes f).length ≤ f.held + 20 := by
  cases plain with
  | @varint number value =>
    have tag := length_varint_le (8 * number + 0)
    have value := length_varint_le value
    simp only [toBytes, RawField.tag, List.length_append, held]
    omega
  | @bytes number payload =>
    have tag := length_varint_le (8 * number + 2)
    have size := length_varint_le payload.length
    simp only [toBytes, RawField.tag, List.length_append, held]
    omega

theorem length_listToBytes_le {fields : List RawField} (plain : ∀ f ∈ fields, f.Plain) :
    (listToBytes fields).length ≤ (fields.map held).sum + 20 * fields.length := by
  induction fields with
  | nil => exact Nat.le_refl _
  | cons f fields ih =>
    obtain ⟨own, others⟩ := List.forall_mem_cons.1 plain
    have first := own.length_toBytes_le
    have after := ih others
    simp only [listToBytes, List.length_append, List.map_cons, List.sum_cons, List.length_cons]
    omega

end RawField

namespace Leaf

def held : (l : Leaf) → l.Value → Nat
  | text, v => v.utf8ByteSize
  | _, _ => 0

variable {l : Leaf} {number : Nat} {v : l.Value} {raw : RawField}

theorem held_default : l.held l.default = 0 := by
  cases l <;> rfl

theorem held_take_le (taken : l.take raw = .set v) : l.held v ≤ raw.held := by
  cases l with
  | text =>
    cases raw with
    | bytes number payload =>
      simp only [take] at taken
      split at taken
      next s read =>
        cases taken
        exact Nat.le_of_eq (utf8?_length read)
      next => cases taken
    | _ => cases taken
  | _ => exact Nat.zero_le _

theorem held_give : ((l.give number v).map RawField.held).sum = l.held v := by
  cases l with
  | text =>
    by_cases empty : v = ""
    · subst empty
      rfl
    · have written : text.give number v = [.bytes number v.toUTF8.toList] := if_neg empty
      rw [written, List.map_singleton, List.sum_singleton, RawField.held, length_toUTF8, held]
  | int64 => by_cases zero : v = 0 <;> simp [give, zero, RawField.held, held]
  | bool => cases v <;> rfl
  | enum e => by_cases zero : v = 0 <;> simp [give, zero, RawField.held, held]

theorem length_give_le (l : Leaf) (number : Nat) (v : l.Value) :
    (l.give number v).length ≤ 1 := by
  rcases l.give_cases number v with ⟨none, -⟩ | ⟨raw, one, -⟩
  · simp [none]
  · simp [one]

end Leaf

namespace Row

def held : (fs : List LeafField) → Row fs → Nat
  | [], _ => 0
  | f :: fs, (v, rest) => f.leaf.held v + held fs rest

variable {fs : List LeafField} {row next : Row fs} {raw : RawField}

theorem held_empty : held fs (empty fs) = 0 := by
  induction fs with
  | nil => rfl
  | cons f fs ih => rw [empty, held, Leaf.held_default, ih]

theorem held_give : ((give fs row).map RawField.held).sum = held fs row := by
  induction fs with
  | nil => rfl
  | cons f fs ih => rw [give, held, List.map_append, List.sum_append, Leaf.held_give, ih]

theorem length_give_le (row : Row fs) : (give fs row).length ≤ fs.length := by
  induction fs with
  | nil => exact Nat.le_refl _
  | cons f fs ih =>
    have first := f.leaf.length_give_le f.number row.1
    have after := ih row.2
    rw [give, List.length_append, List.length_cons]
    omega

theorem length_listToBytes_give_le (numbers : ∀ f ∈ fs, Numbers f.number) (row : Row fs) :
    (listToBytes (give fs row)).length ≤ held fs row + 20 * fs.length := by
  have written : (listToBytes (give fs row)).length ≤
      ((give fs row).map RawField.held).sum + 20 * (give fs row).length :=
    RawField.length_listToBytes_le (plain_of_give numbers)
  have few := length_give_le row
  rw [held_give] at written
  omega

theorem held_put_le (done : put fs row raw = some next) :
    held fs next ≤ held fs row + raw.held := by
  induction fs with
  | nil => exact Nat.zero_le _
  | cons f fs ih =>
    obtain ⟨v, rest⟩ := row
    by_cases own : raw.number = f.number
    · rw [put_own own] at done
      obtain ⟨w, taken, rfl⟩ := Option.map_eq_some_iff.1 done
      have small := size_onto_le (fun w set => Nat.le_add_left_of_le (Leaf.held_take_le set)) taken
      simp only [held]
      omega
    · rw [put_other own] at done
      obtain ⟨after, left, rfl⟩ := Option.map_eq_some_iff.1 done
      have small := ih left
      simp only [held]
      omega

theorem held_merge_le {depth : Nat} {bs : List UInt8} (merged : merge fs row depth bs = some next) :
    held fs next ≤ held fs row + bs.length := by
  obtain ⟨raws, read, put⟩ := Option.bind_eq_some_iff.1 merged
  have grown := size_foldlM_le put fun _ _ _ => held_put_le
  have given := held_rawFields_le read
  omega

end Row

namespace Kind

def held : (k : Kind) → k.Value → Nat
  | leaf l, v => l.held v
  | message _ fs, row => (row.map (Row.held fs)).getD 0
  | messages _ fs, rows => (rows.map (Row.held fs)).sum

def width : Kind → Nat
  | leaf _ => 0
  | message _ fs | messages _ fs => fs.length

variable {k : Kind} {number : Nat} {v w : k.Value} {raw : RawField}

theorem held_default : k.held k.default = 0 := by
  cases k with
  | leaf l => exact Leaf.held_default
  | _ => rfl

theorem held_take_le (taken : k.take v raw = .set w) : k.held w ≤ k.held v + raw.held := by
  cases k with
  | leaf l => exact Nat.le_add_left_of_le (Leaf.held_take_le taken)
  | message name fs =>
    cases raw with
    | bytes number payload =>
      simp only [take] at taken
      split at taken
      next row merged =>
        cases taken
        have grown := Row.held_merge_le merged
        cases v with
        | none => simpa [held, RawField.held, Row.held_empty] using grown
        | some old => exact grown
      next => cases taken
    | _ => cases taken
  | messages name fs =>
    cases raw with
    | bytes number payload =>
      simp only [take] at taken
      split at taken
      next row merged =>
        cases taken
        have grown := Row.held_merge_le merged
        rw [Row.held_empty, Nat.zero_add] at grown
        simpa [held, RawField.held] using grown
      next => cases taken
    | _ => cases taken

theorem fits_of_held (sound : k.Sound) (short : k.held v + 20 * k.width < 0x80000000) :
    ∀ raw ∈ k.give number v, raw.Fits := by
  cases k with
  | leaf l =>
    refine Leaf.fits_give_iff.2 ?_
    cases l with
    | text => exact short
    | _ => trivial
  | message name fs =>
    cases v with
    | none => exact List.forall_mem_nil _
    | some row =>
      have written := Row.length_listToBytes_give_le sound.2 row
      exact List.forall_mem_singleton.2 (Nat.lt_of_le_of_lt written short)
  | messages name fs =>
    refine List.forall_mem_map.2 fun row listed => ?_
    have written := Row.length_listToBytes_give_le sound.2 row
    have part : Row.held fs row ≤ (messages name fs).held v :=
      List.le_sum_of_mem (List.mem_map_of_mem listed)
    refine Nat.lt_of_le_of_lt written ?_
    simp only [width] at short
    omega

end Kind

namespace Message

def held : (fs : List Field) → Message fs → Nat
  | [], _ => 0
  | f :: fs, (v, rest) => f.kind.held v + held fs rest

variable {fs : List Field} {m next : Message fs} {raw : RawField} {bs : List UInt8}

theorem held_empty : held fs (empty fs) = 0 := by
  induction fs with
  | nil => rfl
  | cons f fs ih => rw [empty, held, Kind.held_default, ih]

theorem held_put_le (done : put fs m raw = some next) : held fs next ≤ held fs m + raw.held := by
  induction fs with
  | nil => exact Nat.zero_le _
  | cons f fs ih =>
    obtain ⟨v, rest⟩ := m
    by_cases own : raw.number = f.number
    · rw [put_own own] at done
      obtain ⟨w, taken, rfl⟩ := Option.map_eq_some_iff.1 done
      have small := size_onto_le (fun w set => Kind.held_take_le set) taken
      simp only [held]
      omega
    · rw [put_other own] at done
      obtain ⟨after, left, rfl⟩ := Option.map_eq_some_iff.1 done
      have small := ih left
      simp only [held]
      omega

theorem held_decode_le (read : decode fs bs = some m) : held fs m ≤ bs.length := by
  obtain ⟨raws, read, put⟩ := Option.bind_eq_some_iff.1 read
  have grown := size_foldlM_le put fun _ _ _ => held_put_le
  have given := held_rawFields_le read
  rw [held_empty] at grown
  omega

theorem fits_of_held {width : Nat} (inner : ∀ f ∈ fs, f.kind.Sound ∧ f.kind.width ≤ width)
    (short : held fs m + 20 * width < 0x80000000) : m.Fits := by
  unfold Fits
  induction fs with
  | nil => exact List.forall_mem_nil _
  | cons f fs ih =>
    obtain ⟨v, rest⟩ := m
    obtain ⟨⟨sound, narrow⟩, others⟩ := List.forall_mem_cons.1 inner
    simp only [held] at short
    exact List.forall_mem_append.2
      ⟨Kind.fits_of_held sound (by omega), ih others (by omega)⟩

end Message

end BackupConsole.Wire
