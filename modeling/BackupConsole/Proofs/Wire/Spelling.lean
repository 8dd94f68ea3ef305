import BackupConsole.Proofs.Wire.Fields

set_option autoImplicit false

namespace BackupConsole.Wire

inductive Spells : List UInt8 → Nat → Prop
  | last {b : UInt8} (low : b.toNat < 128) : Spells [b] b.toNat
  | more {b : UInt8} {bs : List UInt8} {n : Nat} (high : ¬ b.toNat < 128) (rest : Spells bs n) :
      Spells (b :: bs) (b.toNat - 128 + 128 * n)

theorem Spells.readVarint {bs : List UInt8} {n limit : Nat} (spells : Spells bs n)
    (room : bs.length ≤ limit) (rest : List UInt8) :
    readVarint limit (bs ++ rest) = some (n, rest) := by
  induction spells generalizing limit with
  | last low =>
    obtain ⟨limit, rfl⟩ : ∃ k, limit = k + 1 := Nat.exists_eq_add_of_le' room
    rw [List.singleton_append, Wire.readVarint, if_pos low]
  | more high rest ih =>
    obtain ⟨limit, rfl⟩ : ∃ k, limit = k + 1 :=
      Nat.exists_eq_add_of_le' (Nat.le_of_add_left_le room)
    rw [List.cons_append, Wire.readVarint, if_neg high, ih (Nat.le_of_succ_le_succ room),
      Option.map_some]

theorem spells_iff {bs : List UInt8} {n : Nat} :
    Spells bs n ↔ readVarint bs.length bs = some (n, []) := by
  refine ⟨fun spells => by simpa using spells.readVarint (Nat.le_refl _) [], fun read => ?_⟩
  induction bs generalizing n with
  | nil => cases read
  | cons b bs ih =>
    rw [List.length_cons, readVarint] at read
    split at read
    next low =>
      cases read
      exact .last low
    next high =>
      obtain ⟨⟨m, rest⟩, after, made⟩ := Option.map_eq_some_iff.1 read
      cases made
      exact .more high (ih after)

instance (bs : List UInt8) (n : Nat) : Decidable (Spells bs n) :=
  decidable_of_iff _ spells_iff.symm

theorem Spells.ne_nil {bs : List UInt8} {n : Nat} (spells : Spells bs n) : bs ≠ [] := by
  cases spells <;> nofun

namespace RawField

structure Tagged (number form : Nat) (bs : List UInt8) : Prop where
  spells : Spells bs (8 * number + form)
  short : bs.length ≤ 5
  numbers : Numbers number

instance (number form : Nat) (bs : List UInt8) : Decidable (Tagged number form bs) :=
  decidable_of_iff (Spells bs (8 * number + form) ∧ bs.length ≤ 5 ∧ Numbers number)
    ⟨fun ⟨spells, short, numbers⟩ => ⟨spells, short, numbers⟩,
      fun tagged => ⟨tagged.spells, tagged.short, tagged.numbers⟩⟩

/-- The fields that bytes spell. Groups nest at most `depth` deep in one another. -/
inductive Spelt : Nat → List RawField → List UInt8 → Prop
  | nil {depth : Nat} : Spelt depth [] []
  | varint {depth number value : Nat} {tag digits later : List UInt8} {fields : List RawField}
      (tagged : Tagged number 0 tag) (spells : Spells digits value) (short : digits.length ≤ 10)
      (rest : Spelt depth fields later) :
      Spelt depth (.varint number (value % 0x10000000000000000) :: fields)
        (tag ++ (digits ++ later))
  | fixed64 {depth number : Nat} {tag payload later : List UInt8} {fields : List RawField}
      (tagged : Tagged number 1 tag) (sized : payload.length = 8)
      (rest : Spelt depth fields later) :
      Spelt depth (.fixed64 number payload :: fields) (tag ++ (payload ++ later))
  | bytes {depth number : Nat} {tag size payload later : List UInt8} {fields : List RawField}
      (tagged : Tagged number 2 tag) (spells : Spells size payload.length)
      (short : size.length ≤ 5) (fits : payload.length < 0x80000000)
      (rest : Spelt depth fields later) :
      Spelt depth (.bytes number payload :: fields) (tag ++ (size ++ (payload ++ later)))
  | group {depth number : Nat} {tag body close later : List UInt8} {inner fields : List RawField}
      (tagged : Tagged number 3 tag) (inside : Spelt depth inner body)
      (closes : Tagged number 4 close) (rest : Spelt (depth + 1) fields later) :
      Spelt (depth + 1) (.group number inner :: fields) (tag ++ (body ++ (close ++ later)))
  | fixed32 {depth number : Nat} {tag payload later : List UInt8} {fields : List RawField}
      (tagged : Tagged number 5 tag) (sized : payload.length = 4)
      (rest : Spelt depth fields later) :
      Spelt depth (.fixed32 number payload :: fields) (tag ++ (payload ++ later))

variable {fuel depth number form : Nat} {closing : Option Nat} {tag bs rest left : List UInt8}
  {fields more : List RawField}

theorem Tagged.takeTag (tagged : Tagged number form tag) (low : form < 8) (rest : List UInt8) :
    takeTag (tag ++ rest) = some (number, form, rest) := by
  obtain ⟨spells, short, positive, bounded⟩ := tagged
  have accepted : 8 * number + form < 0x100000000 := by omega
  have number_back : (8 * number + form) / 8 = number := by omega
  have form_back : (8 * number + form) % 8 = form := by omega
  rw [RawField.takeTag, spells.readVarint short]
  simp only [Option.bind_eq_bind, Option.bind_some, accepted, number_back, form_back, positive,
    decide_true, Bool.and_self, if_true]

-- A tag has a byte at least, which makes up for the unit of fuel that its field takes.
theorem readFields_of_tagged (tagged : Tagged number form tag) (low : form < 8) (opens : form ≠ 4)
    {f : RawField} {body : List UInt8} {need : Nat}
    (step : ∀ fuel, body.length + need ≤ fuel →
      ∃ later, takePayload fuel depth number form (body ++ rest) = some (f, later) ∧
        readFields fuel depth closing later = some (fields, left))
    (enough : (tag ++ body).length + need ≤ fuel) :
    readFields fuel depth closing (tag ++ body ++ rest) = some (f :: fields, left) := by
  have first := List.length_pos_iff.2 tagged.spells.ne_nil
  rw [List.length_append] at enough
  obtain ⟨fuel, rfl⟩ : ∃ k, fuel = k + 1 := ⟨fuel - 1, by omega⟩
  obtain ⟨later, taken, after⟩ := step fuel (by omega)
  rw [List.append_assoc, readFields_of_takeTag (tagged.takeTag low _) opens, taken,
    Option.bind_some]
  simp only [after, Option.map_some]

theorem readFields_of_closing (tagged : Tagged number 4 tag) (enough : 1 ≤ fuel) (depth : Nat)
    (rest : List UInt8) : readFields fuel depth (some number) (tag ++ rest) = some ([], rest) := by
  obtain ⟨fuel, rfl⟩ := Nat.exists_eq_add_of_le' enough
  have starts : (tag ++ rest).isEmpty = false := by
    rw [List.isEmpty_eq_false_iff]
    exact List.append_ne_nil_of_left_ne_nil tagged.spells.ne_nil rest
  rw [readFields_eq, starts, tagged.takeTag (by decide)]
  simp

theorem takeBytes_append {n : Nat} (sized : bs.length = n) :
    takeBytes n (bs ++ rest) = some (bs, rest) := by
  subst sized
  simp [takeBytes]

theorem takePayload_varint {value : Nat} (spells : Spells bs value) (short : bs.length ≤ 10) :
    takePayload fuel depth number 0 (bs ++ rest) =
      some (.varint number (value % 0x10000000000000000), rest) := by
  rw [takePayload.eq_def, if_pos rfl, spells.readVarint short]
  rfl

theorem takePayload_fixed64 (sized : bs.length = 8) :
    takePayload fuel depth number 1 (bs ++ rest) = some (.fixed64 number bs, rest) := by
  rw [takePayload.eq_def, if_neg (by decide), if_pos rfl, takeBytes_append sized]
  rfl

theorem takePayload_bytes {size : List UInt8} (spells : Spells size bs.length)
    (short : size.length ≤ 5) (fits : bs.length < 0x80000000) :
    takePayload fuel depth number 2 (size ++ (bs ++ rest)) = some (.bytes number bs, rest) := by
  rw [takePayload.eq_def, if_neg (by decide), if_neg (by decide), if_pos rfl, takeSized,
    spells.readVarint short]
  simp [fits, takeBytes_append rfl]

theorem takePayload_fixed32 (sized : bs.length = 4) :
    takePayload fuel depth number 5 (bs ++ rest) = some (.fixed32 number bs, rest) := by
  rw [takePayload.eq_def, if_neg (by decide), if_neg (by decide), if_neg (by decide), if_pos rfl,
    takeBytes_append sized]
  rfl

theorem takePayload_group
    (inside : readFields fuel depth (some number) bs = some (fields, rest)) :
    takePayload fuel (depth + 1) number 3 bs = some (.group number fields, rest) := by
  rw [takePayload.eq_def, if_neg (by decide), if_neg (by decide), if_neg (by decide),
    if_neg (by decide), if_pos rfl]
  simp only [inside, Option.map_some]

/-- What comes after the bytes is read as if it stood alone, and the fields come before it. -/
theorem Spelt.readFields_append (spelt : Spelt depth fields bs) {need : Nat}
    (after : ∀ fuel, need ≤ fuel → readFields fuel depth closing rest = some (more, left))
    (enough : bs.length + need ≤ fuel) :
    readFields fuel depth closing (bs ++ rest) = some (fields ++ more, left) := by
  induction spelt generalizing closing rest more left need fuel with
  | nil => exact after fuel (by simpa using enough)
  | varint tagged spells short _ ih =>
    refine readFields_of_tagged tagged (by decide) (by decide) (fun fuel room => ?_) enough
    simp only [List.append_assoc, List.length_append] at room ⊢
    exact ⟨_, takePayload_varint spells short, ih after (by omega)⟩
  | fixed64 tagged sized _ ih =>
    refine readFields_of_tagged tagged (by decide) (by decide) (fun fuel room => ?_) enough
    simp only [List.append_assoc, List.length_append] at room ⊢
    exact ⟨_, takePayload_fixed64 sized, ih after (by omega)⟩
  | bytes tagged spells short fits _ ih =>
    refine readFields_of_tagged tagged (by decide) (by decide) (fun fuel room => ?_) enough
    simp only [List.append_assoc, List.length_append] at room ⊢
    exact ⟨_, takePayload_bytes spells short fits, ih after (by omega)⟩
  | @group _ _ _ _ _ later _ _ tagged _ closes _ inner ih =>
    refine readFields_of_tagged tagged (by decide) (by decide) (fun fuel room => ?_) enough
    simp only [List.append_assoc, List.length_append] at room ⊢
    -- To the fields of the group what comes after them is its closing tag, and there they end.
    have last := List.length_pos_iff.2 closes.spells.ne_nil
    have inside := inner (fun _ some => readFields_of_closing closes some _ (later ++ rest))
      (show _ ≤ fuel by omega)
    rw [List.append_nil] at inside
    exact ⟨_, takePayload_group inside, ih after (by omega)⟩
  | fixed32 tagged sized _ ih =>
    refine readFields_of_tagged tagged (by decide) (by decide) (fun fuel room => ?_) enough
    simp only [List.append_assoc, List.length_append] at room ⊢
    exact ⟨_, takePayload_fixed32 sized, ih after (by omega)⟩

def nested : Nat → List RawField
  | 0 => []
  | n + 1 => [.group 15 (nested n)]

def nestedBytes (n : Nat) : List UInt8 := List.replicate n 123 ++ List.replicate n 124

theorem spelt_nested (n : Nat) : Spelt n (nested n) (nestedBytes n) := by
  induction n with
  | zero => exact .nil
  | succ n ih =>
    have opens : Tagged 15 3 [123] := by decide
    have closes : Tagged 15 4 [124] := by decide
    have bytes : nestedBytes (n + 1) = [123] ++ (nestedBytes n ++ ([124] ++ [])) := by
      rw [nestedBytes, List.replicate_succ, List.replicate_succ']
      simp [nestedBytes]
    rw [bytes]
    exact .group opens ih closes .nil

-- A reader gives up at the group that is one too many, without a look at what is in it.
theorem readFields_nested {depth n : Nat} (deep : depth < n) (fuel : Nat) (closing : Option Nat)
    (rest : List UInt8) :
    readFields fuel depth closing (List.replicate n 123 ++ rest) = none := by
  have opens : Tagged 15 3 [123] := by decide
  induction depth generalizing n fuel closing with
  | zero =>
    obtain ⟨n, rfl⟩ : ∃ k, n = k + 1 := Nat.exists_eq_add_of_le' deep
    have tagged := opens.takeTag (by decide) (List.replicate n 123 ++ rest)
    cases fuel with
    | zero => rfl
    | succ fuel => exact readFields_of_takeTag tagged (by decide) fuel 0 closing
  | succ depth ih =>
    obtain ⟨n, rfl⟩ : ∃ k, n = k + 1 := Nat.exists_eq_add_of_le' (Nat.one_le_of_lt deep)
    have tagged := opens.takeTag (by decide) (List.replicate n 123 ++ rest)
    cases fuel with
    | zero => rfl
    | succ fuel =>
      have inner := ih (Nat.lt_of_succ_lt_succ deep) fuel (some 15)
      refine (readFields_of_takeTag tagged (by decide) fuel (depth + 1) closing).trans ?_
      rw [takePayload.eq_def]
      simp [inner]

end RawField

end BackupConsole.Wire
