import BackupConsole.Proofs.Wire.Extent

set_option autoImplicit false

namespace BackupConsole.Wire

open RawField (Numbers Plain listToBytes held)

theorem varint_append_inj {m n : Nat} {xs ys : List UInt8} (hm : m < 0x10000000000000000)
    (hn : n < 0x10000000000000000) (same : varint m ++ xs = varint n ++ ys) : m = n ∧ xs = ys := by
  have read := readVarint_varint 10 m xs hm (Nat.le_refl _)
  rw [same, readVarint_varint 10 n ys hn (Nat.le_refl _)] at read
  simpa [eq_comm] using read

theorem owned_append_inj {own : Nat} {first also rest others : List RawField}
    (owns : ∀ raw ∈ first, raw.number = own) (alsoOwns : ∀ raw ∈ also, raw.number = own)
    (apart : ∀ raw ∈ rest, raw.number ≠ own) (othersApart : ∀ raw ∈ others, raw.number ≠ own)
    (same : first ++ rest = also ++ others) : first = also ∧ rest = others := by
  have kept {first rest : List RawField} (owns : ∀ raw ∈ first, raw.number = own)
      (apart : ∀ raw ∈ rest, raw.number ≠ own) :
      (first ++ rest).filter (fun raw => raw.number = own) = first := by
    have whole : first.filter (fun raw => raw.number = own) = first :=
      List.filter_eq_self.2 fun raw given => decide_eq_true (owns raw given)
    have none : rest.filter (fun raw => raw.number = own) = [] :=
      List.filter_eq_nil_iff.2 fun raw given => by simpa using apart raw given
    rw [List.filter_append, whole, none, List.append_nil]
  have firsts : first = also := by
    rw [← kept owns apart, same, kept alsoOwns othersApart]
  subst firsts
  exact ⟨rfl, List.append_cancel_left same⟩

namespace RawField

variable {f g : RawField} {fs gs : List RawField} {xs ys : List UInt8}

theorem held_le_length (f : RawField) : f.held ≤ (toBytes f).length := by
  cases f with
  | bytes number payload =>
    simp only [held, toBytes, List.length_append]
    omega
  | _ => exact Nat.zero_le _

theorem held_le_of_mem (listed : f ∈ fs) : f.held ≤ (listToBytes fs).length := by
  induction fs with
  | nil => cases listed
  | cons g fs ih =>
    rw [listToBytes, List.length_append]
    rcases List.mem_cons.1 listed with rfl | later
    · exact Nat.le_add_right_of_le (held_le_length f)
    · exact Nat.le_add_left_of_le (ih later)

theorem tag_append_inj {number other form also : Nat} (numbers : Numbers number)
    (others : Numbers other) (low : form < 8) (alsoLow : also < 8)
    (same : tag number form ++ xs = tag other also ++ ys) :
    number = other ∧ form = also ∧ xs = ys := by
  have read := takeTag_tag numbers low xs
  rw [same, takeTag_tag others alsoLow] at read
  cases read
  exact ⟨rfl, rfl, rfl⟩

theorem Plain.append_inj (plain : f.Plain) (also : g.Plain) (short : f.held < 0x10000000000000000)
    (alsoShort : g.held < 0x10000000000000000) (same : toBytes f ++ xs = toBytes g ++ ys) :
    f = g ∧ xs = ys := by
  cases plain with
  | varint numbers small =>
    cases also with
    | varint others alsoSmall =>
      simp only [toBytes, List.append_assoc] at same
      obtain ⟨rfl, -, same⟩ := tag_append_inj numbers others (by decide) (by decide) same
      obtain ⟨rfl, rest⟩ := varint_append_inj small alsoSmall same
      exact ⟨rfl, rest⟩
    | bytes others =>
      simp only [toBytes, List.append_assoc] at same
      cases (tag_append_inj numbers others (by decide) (by decide) same).2.1
  | bytes numbers =>
    cases also with
    | varint others =>
      simp only [toBytes, List.append_assoc] at same
      cases (tag_append_inj numbers others (by decide) (by decide) same).2.1
    | bytes others =>
      simp only [toBytes, List.append_assoc] at same
      obtain ⟨rfl, -, same⟩ := tag_append_inj numbers others (by decide) (by decide) same
      obtain ⟨sizes, same⟩ := varint_append_inj short alsoShort same
      obtain ⟨rfl, rest⟩ := List.append_inj same sizes
      exact ⟨rfl, rest⟩

theorem listToBytes_inj (plain : ∀ f ∈ fs, f.Plain) (also : ∀ g ∈ gs, g.Plain)
    (short : (listToBytes fs).length < 0x10000000000000000)
    (same : listToBytes fs = listToBytes gs) : fs = gs := by
  have bounded {f : RawField} (listed : f ∈ fs) : f.held < 0x10000000000000000 :=
    Nat.lt_of_le_of_lt (held_le_of_mem listed) short
  have alsoBounded {g : RawField} (listed : g ∈ gs) : g.held < 0x10000000000000000 :=
    Nat.lt_of_le_of_lt (held_le_of_mem listed) (same ▸ short)
  clear short
  induction fs generalizing gs with
  | nil =>
    cases gs with
    | nil => rfl
    | cons g gs => exact absurd (List.append_eq_nil_iff.1 same.symm).1 (toBytes_ne_nil g)
  | cons f fs ih =>
    cases gs with
    | nil => exact absurd (List.append_eq_nil_iff.1 same).1 (toBytes_ne_nil f)
    | cons g gs =>
      obtain ⟨own, others⟩ := List.forall_mem_cons.1 plain
      obtain ⟨alsoOwn, alsoOthers⟩ := List.forall_mem_cons.1 also
      obtain ⟨rfl, rest⟩ :=
        own.append_inj alsoOwn (bounded (.head _)) (alsoBounded (.head _)) same
      rw [ih others alsoOthers rest (fun later => bounded (.tail _ later))
        fun later => alsoBounded (.tail _ later)]

end RawField

theorem Row.bytes_inj {fs : List LeafField} (distinct : (fs.map LeafField.number).Nodup)
    (numbers : ∀ f ∈ fs, Numbers f.number) {row other : Row fs}
    (short : (listToBytes (give fs row)).length < 0x10000000000000000)
    (same : listToBytes (give fs row) = listToBytes (give fs other)) : row = other := by
  have given : give fs row = give fs other :=
    RawField.listToBytes_inj (plain_of_give numbers) (plain_of_give numbers) short same
  have back := putAll_give distinct row
  rw [given, putAll_give distinct other] at back
  exact (Option.some.inj back).symm

theorem Kind.give_inj {k : Kind} (sound : k.Sound) {number : Nat} {v w : k.Value}
    (short : ∀ raw ∈ k.give number v, raw.held < 0x10000000000000000)
    (same : k.give number v = k.give number w) : v = w := by
  cases k with
  | leaf l =>
    have back := l.foldlM_give number v
    rw [show l.give number v = l.give number w from same, l.foldlM_give] at back
    exact (Option.some.inj back).symm
  | message name fs =>
    -- An absent message has no field; one that is there has a field, be it empty.
    cases v with
    | none =>
      cases w with
      | none => rfl
      | some other => cases same
    | some row =>
      cases w with
      | none => cases same
      | some other =>
        have payloads : listToBytes (Row.give fs row) = listToBytes (Row.give fs other) := by
          simpa [give] using same
        rw [Row.bytes_inj sound.1 sound.2 (short _ (List.mem_singleton.2 rfl)) payloads]
  | messages name fs =>
    induction v generalizing w with
    | nil =>
      cases w with
      | nil => rfl
      | cons other others => cases same
    | cons row rows ih =>
      cases w with
      | nil => cases same
      | cons other others =>
        obtain ⟨own, later⟩ := List.forall_mem_cons.1 short
        have heads : listToBytes (Row.give fs row) = listToBytes (Row.give fs other) := by
          simpa using (List.cons.inj same).1
        rw [Row.bytes_inj sound.1 sound.2 own heads, ih later (List.cons.inj same).2]

namespace Message

variable {fs : List Field}

theorem give_inj (sound : Sound fs) {m n : Message fs}
    (short : ∀ raw ∈ give fs m, raw.held < 0x10000000000000000)
    (same : give fs m = give fs n) : m = n := by
  induction fs with
  | nil => rfl
  | cons f fs ih =>
    obtain ⟨distinct, numbers, inner⟩ := sound
    obtain ⟨fresh, distinct⟩ := List.nodup_cons.1 distinct
    obtain ⟨firstShort, restShort⟩ := List.forall_mem_append.1 short
    obtain ⟨firstSound, restSound⟩ := List.forall_mem_cons.1 inner
    have apart (rest : Message fs) (raw : RawField) (given : raw ∈ give fs rest) :
        raw.number ≠ f.number := fun same => fresh (same ▸ number_of_give raw given)
    obtain ⟨firsts, rests⟩ := owned_append_inj Kind.number_of_give Kind.number_of_give
      (apart m.2) (apart n.2) same
    have value := Kind.give_inj firstSound firstShort firsts
    have others := ih ⟨distinct, (List.forall_mem_cons.1 numbers).2, restSound⟩ restShort rests
    exact Prod.ext value others

theorem encode_inj (sound : Sound fs) {m n : Message fs}
    (short : (encode fs m).length < 0x10000000000000000) : encode fs m = encode fs n ↔ m = n := by
  refine ⟨fun same => ?_, fun same => same ▸ rfl⟩
  have plain (m : Message fs) : ∀ raw ∈ give fs m, raw.Plain := plain_of_give sound.numbers
  have given := RawField.listToBytes_inj (plain m) (plain n) short same
  exact give_inj sound
    (fun raw listed => Nat.lt_of_le_of_lt (RawField.held_le_of_mem listed) short) given

end Message

end BackupConsole.Wire

namespace BackupConsole.Contract

theorem encode_inj {t : MessageType} {m n : Msg t}
    (short : (encode m).length < 0x10000000000000000) : encode m = encode n ↔ m = n :=
  Wire.Message.encode_inj t.sound short

end BackupConsole.Contract
