import BackupConsole.Proofs.Wire.RoundTrip
import BackupConsole.Proofs.Wire.Spelling

set_option autoImplicit false

namespace BackupConsole.Wire

open RawField (Fits Plain Spelt listToBytes)

/-- The bytes of fields with strangers between them: fields of any form that have no number of
these. The fields themselves may have grown. -/
inductive Mixed (numbers : List Nat) (grown : RawField → RawField → Prop) (depth : Nat) :
    List RawField → List UInt8 → Prop
  | done : Mixed numbers grown depth [] []
  | strangers {others raws : List RawField} {bs later : List UInt8}
      (spelt : Spelt depth others bs) (unknown : ∀ f ∈ others, f.number ∉ numbers)
      (rest : Mixed numbers grown depth raws later) : Mixed numbers grown depth raws (bs ++ later)
  | own {raw new : RawField} {later : List UInt8} {raws : List RawField} (grows : grown raw new)
      (fits : new.Fits) (rest : Mixed numbers grown depth raws later) :
      Mixed numbers grown depth (raw :: raws) (RawField.toBytes new ++ later)

namespace Mixed

variable {numbers : List Nat} {grown : RawField → RawField → Prop} {depth : Nat}
  {raws : List RawField} {bs : List UInt8}

theorem rawFields (mixed : Mixed numbers grown depth raws bs)
    (known : ∀ raw ∈ raws, ∀ new, grown raw new → new.Plain ∧ new.number ∈ numbers) :
    ∃ fields, Wire.rawFields depth bs = some fields ∧
      List.Forall₂ (fun raw new => grown raw new ∧ new.Fits) raws
        (fields.filter fun f => f.number ∈ numbers) := by
  -- What is read after some of the bytes is read with the fuel that these have left over.
  suffices whole : ∃ fields,
      (∀ fuel, bs.length + 1 ≤ fuel → RawField.readFields fuel depth none bs = some (fields, [])) ∧
      List.Forall₂ (fun raw new => grown raw new ∧ new.Fits) raws
        (fields.filter fun f => f.number ∈ numbers) by
    obtain ⟨fields, read, own⟩ := whole
    exact ⟨fields, by rw [Wire.rawFields, read _ (Nat.le_refl _)]; rfl, own⟩
  induction mixed with
  | done =>
    refine ⟨[], fun fuel enough => ?_, .nil⟩
    obtain ⟨fuel, rfl⟩ := Nat.exists_eq_add_of_le' enough
    rfl
  | @strangers others raws bs later spelt unknown rest ih =>
    obtain ⟨fields, read, own⟩ := ih known
    refine ⟨others ++ fields, fun fuel enough => ?_, ?_⟩
    · rw [List.length_append, Nat.add_assoc] at enough
      exact spelt.readFields_append read enough
    · have left : others.filter (fun f => f.number ∈ numbers) = [] :=
        List.filter_eq_nil_iff.2 fun f listed => by simpa using unknown f listed
      rwa [List.filter_append, left, List.nil_append]
  | @own raw new later raws grows fits rest ih =>
    obtain ⟨⟨plain, listed⟩, others⟩ :=
      (List.forall_mem_cons.1 known).imp_left fun first => first new grows
    obtain ⟨fields, read, own⟩ := ih others
    refine ⟨new :: fields, fun fuel enough => ?_, ?_⟩
    · have first := List.length_pos_iff.2 (RawField.toBytes_ne_nil new)
      rw [List.length_append] at enough
      obtain ⟨fuel, rfl⟩ : ∃ k, fuel = k + 1 := ⟨fuel - 1, by omega⟩
      rw [RawField.readFields_cons plain, if_pos fits, read fuel (by omega)]
      rfl
    · simpa [listed] using ⟨⟨grows, fits⟩, own⟩

theorem length_le (mixed : Mixed numbers Eq depth raws bs) :
    (listToBytes raws).length ≤ bs.length := by
  induction mixed with
  | done => exact Nat.le_refl _
  | strangers _ _ _ ih =>
    rw [List.length_append]
    exact Nat.le_add_left_of_le ih
  | own grows _ _ ih =>
    subst grows
    rw [listToBytes, List.length_append, List.length_append]
    exact Nat.add_le_add_left ih _

theorem append_own (refl : ∀ raw, grown raw raw) {own : List RawField}
    (fits : ∀ raw ∈ own, raw.Fits) (mixed : Mixed numbers grown depth raws bs) :
    Mixed numbers grown depth (own ++ raws) (listToBytes own ++ bs) := by
  induction own with
  | nil => exact mixed
  | cons raw own ih =>
    obtain ⟨first, others⟩ := List.forall_mem_cons.1 fits
    rw [listToBytes, List.append_assoc]
    exact .own (refl raw) first (ih others)

end Mixed

-- Fields that change nothing may be left out.
theorem foldlM_filter_of_skip {α σ : Type} {step : σ → α → Option σ} {keep : α → Bool}
    (skips : ∀ a s, keep a = false → step s a = some s) (items : List α) (s : σ) :
    items.foldlM step s = (items.filter keep).foldlM step s := by
  have same : step = fun s a => if keep a then step s a else pure s := by
    funext s a
    cases kept : keep a with
    | true => rfl
    | false => exact skips a s kept
  rw [List.foldlM_filter, ← same]

theorem foldlM_congr_of_forall₂ {α σ : Type} {step : σ → α → Option σ} {items others : List α}
    (each : List.Forall₂ (fun a b => ∀ s, step s b = step s a) items others) (s : σ) :
    others.foldlM step s = items.foldlM step s := by
  induction each generalizing s with
  | nil => rfl
  | cons first _ ih =>
    rw [List.foldlM_cons, List.foldlM_cons, first]
    exact congrArg _ (funext ih)

namespace Row

variable {fs : List LeafField}

theorem put_unknown {raw : RawField} (unknown : raw.number ∉ fs.map LeafField.number)
    (row : Row fs) : put fs row raw = some row := by
  induction fs with
  | nil => rfl
  | cons f fs ih =>
    obtain ⟨other, unknown⟩ := not_or.1 (List.mem_cons.not.1 unknown)
    rw [put_other other, ih unknown, Option.map_some]

theorem merge_mixed (numbers : ∀ f ∈ fs, RawField.Numbers f.number) {row : Row fs} {depth : Nat}
    {bs : List UInt8} (mixed : Mixed (fs.map LeafField.number) Eq depth (give fs row) bs)
    (short : bs.length < 0x80000000) (old : Row fs) :
    merge fs old depth bs = merge fs old depth (listToBytes (give fs row)) := by
  obtain ⟨fields, read, own⟩ := mixed.rawFields fun raw given new same =>
    same ▸ ⟨plain_of_give numbers raw given, number_of_give raw given⟩
  have kept : fields.filter (fun f => f.number ∈ fs.map LeafField.number) = give fs row := by
    have same := own.imp fun _ _ both => both.1
    rw [List.forall₂_eq_eq_eq] at same
    exact same.symm
  have fits := RawField.fits_of_listToBytes (Nat.lt_of_le_of_lt mixed.length_le short)
  rw [merge, read, merge, rawFields_listToBytes (plain_of_give numbers), if_pos fits]
  change putAll fs old fields = putAll fs old (give fs row)
  have skips (f : RawField) (row : Row fs) (other : decide (f.number ∈ fs.map LeafField.number) =
      false) : put fs row f = some row := put_unknown (of_decide_eq_false other) row
  rw [putAll, foldlM_filter_of_skip skips, kept, putAll]

end Row

namespace Kind

def inner? : Kind → Option (List LeafField)
  | leaf _ => none
  | message _ fs | messages _ fs => some fs

theorem take_mixed {k : Kind} {fs : List LeafField} (inside : k.inner? = some fs) (sound : k.Sound)
    {row : Row fs} {bs : List UInt8}
    (mixed : Mixed (fs.map LeafField.number) Eq (maxDepth - 1) (Row.give fs row) bs)
    (short : bs.length < 0x80000000) (number : Nat) (old : k.Value) :
    k.take old (.bytes number bs) =
      k.take old (.bytes number (listToBytes (Row.give fs row))) := by
  cases k with
  | leaf l => cases inside
  | message name fs =>
    cases inside
    simp only [take, Row.merge_mixed sound.2 mixed short]
  | messages name fs =>
    cases inside
    simp only [take, Row.merge_mixed sound.2 mixed short]

end Kind

namespace Message

inductive Grown (fs : List Field) : RawField → RawField → Prop
  | same {raw : RawField} : Grown fs raw raw
  | inside {f : Field} {inner : List LeafField} {row : Row inner} {bs : List UInt8}
      (listed : f ∈ fs) (inside : f.kind.inner? = some inner)
      (mixed : Mixed (inner.map LeafField.number) Eq (maxDepth - 1) (Row.give inner row) bs) :
      Grown fs (.bytes f.number (listToBytes (Row.give inner row))) (.bytes f.number bs)

/-- Bytes that a writer of a richer schema may write the message as. -/
def Carried {fs : List Field} (m : Message fs) (bs : List UInt8) : Prop :=
  Mixed (fs.map Field.number) (Grown fs) maxDepth (give fs m) bs

variable {f : Field} {fs : List Field} {raw new : RawField} {m : Message fs} {bs : List UInt8}

theorem put_unknown (unknown : raw.number ∉ fs.map Field.number) (m : Message fs) :
    put fs m raw = some m := by
  induction fs with
  | nil => rfl
  | cons f fs ih =>
    obtain ⟨other, unknown⟩ := not_or.1 (List.mem_cons.not.1 unknown)
    rw [put_other other, ih unknown, Option.map_some]

theorem put_congr (distinct : (fs.map Field.number).Nodup) (listed : f ∈ fs)
    (own : raw.number = f.number) (own' : new.number = f.number)
    (same : ∀ old, f.kind.take old new = f.kind.take old raw) (m : Message fs) :
    put fs m new = put fs m raw := by
  induction fs with
  | nil => cases listed
  | cons g fs ih =>
    obtain ⟨v, rest⟩ := m
    obtain ⟨fresh, distinct⟩ := List.nodup_cons.1 distinct
    rcases List.mem_cons.1 listed with rfl | listed
    · rw [put_own own, put_own own', same]
    · have other : f.number ≠ g.number := fun same => fresh (same ▸ List.mem_map_of_mem listed)
      rw [put_other (own.trans_ne other), put_other (own'.trans_ne other), ih distinct listed]

theorem put_grown (sound : Sound fs) (grown : Grown fs raw new) (fits : new.Fits)
    (m : Message fs) : put fs m new = put fs m raw := by
  cases grown with
  | same => rfl
  | inside listed inside mixed =>
    exact put_congr sound.distinct listed rfl rfl
      (Kind.take_mixed inside (sound.inner _ listed) mixed fits _) m

theorem Grown.plain (grown : Grown fs raw new) (plain : raw.Plain) : new.Plain := by
  cases grown with
  | same => exact plain
  | inside listed inside mixed =>
    cases plain with
    | bytes numbers => exact .bytes numbers

theorem Grown.number_eq (grown : Grown fs raw new) : new.number = raw.number := by
  cases grown <;> rfl

theorem Grown.fits (grown : Grown fs raw new) (fits : new.Fits) : raw.Fits := by
  cases grown with
  | same => exact fits
  | inside listed inside mixed => exact Nat.lt_of_le_of_lt mixed.length_le fits

theorem carried_insert (fits : m.Fits) {first last others : List RawField}
    (split : give fs m = first ++ last) (spelt : Spelt maxDepth others bs)
    (unknown : ∀ f ∈ others, f.number ∉ fs.map Field.number) :
    m.Carried (listToBytes first ++ (bs ++ listToBytes last)) := by
  rw [Fits, split, List.forall_mem_append] at fits
  have tail : Mixed (fs.map Field.number) (Grown fs) maxDepth last (listToBytes last) := by
    simpa using Mixed.done.append_own (fun raw => .same) fits.2
  rw [Carried, split]
  exact (Mixed.strangers spelt unknown tail).append_own (fun raw => .same) fits.1

theorem decode_of_carried (sound : Sound fs) (carried : m.Carried bs) :
    decode fs bs = some m ∧ m.Fits := by
  obtain ⟨fields, read, own⟩ := carried.rawFields fun raw given new grown =>
    ⟨grown.plain (plain_of_give sound.numbers raw given),
      grown.number_eq ▸ number_of_give raw given⟩
  have fits : m.Fits := ((List.forall₂_and_left _ _).1
    (own.imp fun _ _ both => ⟨both.1.fits both.2, both⟩)).1
  have skips (f : RawField) (m : Message fs)
      (other : decide (f.number ∈ fs.map Field.number) = false) : put fs m f = some m :=
    put_unknown (of_decide_eq_false other) m
  have same := own.imp fun _ _ both => put_grown sound both.1 both.2
  refine ⟨?_, fits⟩
  rw [decode, read]
  change fields.foldlM (put fs) (empty fs) = some m
  rw [foldlM_filter_of_skip skips, foldlM_congr_of_forall₂ same, foldlM_give sound fits]

end Message

end BackupConsole.Wire
