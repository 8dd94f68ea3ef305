import BackupConsole.Given
import BackupConsole.Proofs.Number.Order
import Mathlib.Algebra.Order.Field.Power
import Mathlib.Data.List.TakeWhile
import Mathlib.Tactic.Linarith
import Mathlib.Tactic.Ring

set_option autoImplicit false

namespace BackupConsole.Number

open Float.Model (UnpackedFloat Format)
open Float.Model.UnpackedFloat (unpackExponent unpackMantissa packComponents)

theorem compare_self_ne_none {f : UnpackedFloat} (number : f.isNaN = false) :
    f.compare f ≠ none := by
  cases f with
  | notANumber => cases number
  | zero s => nofun
  | infinity s => cases s <;> nofun
  | finite s m e positive => cases s <;> nofun

theorem isNaN_of_compare {a b : UnpackedFloat} {o : Ordering} (compared : a.compare b = some o) :
    a.isNaN = false ∧ b.isNaN = false := by
  cases a with
  | notANumber => cases b <;> cases compared
  | zero s => cases b <;> first | exact ⟨rfl, rfl⟩ | cases compared
  | infinity s => cases b <;> first | exact ⟨rfl, rfl⟩ | (cases s <;> cases compared)
  | finite s m e positive => cases b <;> first | exact ⟨rfl, rfl⟩ | (cases s <;> cases compared)

theorem le_self_iff (x : Float) : x ≤ x ↔ x.isNaN = false := by
  rw [le_iff_compare]
  constructor
  · rintro ⟨o, compared, _⟩
    exact (isNaN_of_compare compared).1
  · intro number
    obtain ⟨o, compared⟩ := Option.ne_none_iff_exists'.1 (compare_self_ne_none number)
    refine ⟨o, compared, ?_⟩
    rintro rfl
    -- Swapped, a comparison with itself is the same.
    have swapped := compare_swap x.toModel.unpack x.toModel.unpack
    rw [compared] at swapped
    cases swapped

theorem isNaN_of_lt {a b : Float} (less : a < b) : a.isNaN = false ∧ b.isNaN = false :=
  isNaN_of_compare ((lt_iff_compare a b).1 less)

theorem lt_of_not_le {a b : Float} (first : a.isNaN = false) (second : b.isNaN = false)
    (above : ¬ a ≤ b) : b < a := by
  rw [lt_iff_compare, compare_swap]
  rw [le_iff_compare] at above
  cases compared : a.toModel.unpack.compare b.toModel.unpack with
  | none =>
    have both := comparable_of_numbers (compare_self_ne_none first) (compare_self_ne_none second)
    exact absurd compared both
  | some o =>
    cases o with
    | gt => rfl
    | lt => exact absurd ⟨_, compared, by simp⟩ above
    | eq => exact absurd ⟨_, compared, by simp⟩ above

theorem isNaN_unpack (spec : Format) (b : BitVec spec.numBits) :
    (UnpackedFloat.unpack spec b).isNaN = true ↔
      unpackExponent b = -1#_ ∧ unpackMantissa b ≠ 0#_ := by
  unfold UnpackedFloat.unpack
  dsimp only
  by_cases top : unpackExponent b = -1#_
  · rw [if_pos top]
    by_cases empty : unpackMantissa b = 0#_
    · rw [if_pos empty]
      exact iff_of_false Bool.false_ne_true fun both => both.2 empty
    · rw [if_neg empty]
      exact iff_of_true rfl ⟨top, empty⟩
  · rw [if_neg top]
    refine iff_of_false ?_ fun both => top both.1
    by_cases least : unpackExponent b = 0#_
    · rw [if_pos least]
      by_cases empty : unpackMantissa b = 0#_
      · rw [dif_pos empty]
        exact Bool.false_ne_true
      · rw [dif_neg empty]
        exact Bool.false_ne_true
    · rw [if_neg least]
      exact Bool.false_ne_true

theorem isNaN_unpack_pack (f : UnpackedFloat) :
    (UnpackedFloat.unpack .binary64 (UnpackedFloat.pack .binary64 f)).isNaN = f.isNaN := by
  rw [Bool.eq_iff_iff, isNaN_unpack]
  cases f with
  | notANumber => decide
  | infinity s => cases s <;> decide
  | zero s => cases s <;> decide
  | finite s m e positive =>
    refine iff_of_false ?_ Bool.false_ne_true
    rw [not_and, not_not]
    unfold UnpackedFloat.pack
    dsimp only
    split
    next => simp [UnpackedFloat.packedInfinity]
    next small =>
      split
      next =>
        -- An exponent that is kept is below the one of infinities.
        rw [Float.Model.UnpackedFloat.unpackExponent_packComponents]
        intro top
        have same := congrArg BitVec.toNat top
        simp only [BitVec.toNat_ofNat] at same
        norm_num at same small
        omega
      next => simp

theorem toNat_unpackExponent (b : BitVec Format.binary64.numBits) :
    (unpackExponent b).toNat = b.toNat / leadingBit % 2048 := by
  simp [unpackExponent, BitVec.extractLsb, BitVec.extractLsb', Nat.shiftRight_eq_div_pow,
    leadingBit]

theorem toNat_unpackMantissa (b : BitVec Format.binary64.numBits) :
    (unpackMantissa b).toNat = b.toNat % leadingBit := by
  simp [unpackMantissa, BitVec.extractLsb, BitVec.extractLsb', leadingBit]

theorem isNaN_ofBits (bits : UInt64) : (Float.ofBits bits).isNaN = true ↔
    bits.toNat / leadingBit % 2048 = 2047 ∧ bits.toNat % leadingBit ≠ 0 := by
  change (UnpackedFloat.unpack .binary64 (UnpackedFloat.pack .binary64
    (UnpackedFloat.unpack .binary64 bits.toBitVec))).isNaN = true ↔ _
  rw [isNaN_unpack_pack, isNaN_unpack, ← BitVec.toNat_inj, Ne, ← BitVec.toNat_inj,
    toNat_unpackExponent, toNat_unpackMantissa]
  rfl

theorem isNaN_neg (x : Float) : (-x).isNaN = x.isNaN := by
  change (UnpackedFloat.unpack .binary64 (UnpackedFloat.pack .binary64
    x.toModel.unpack.neg)).isNaN = x.toModel.unpack.isNaN
  rw [isNaN_unpack_pack]
  cases x.toModel.unpack <;> rfl

theorem scaleTwo_lt_iff {num den c : Nat} {shift : Int} :
    (scaleTwo num den shift).1 < c * (scaleTwo num den shift).2 ↔
      (num : ℚ) * 2 ^ shift < c * den := by
  unfold scaleTwo
  split
  next up =>
    obtain ⟨n, rfl⟩ := Int.eq_ofNat_of_zero_le up
    simp only [Int.toNat_natCast, zpow_natCast, Nat.pow_eq]
    norm_cast
  next down =>
    obtain ⟨n, rfl⟩ := Int.exists_eq_neg_ofNat (le_of_not_ge down)
    simp only [neg_neg, Int.toNat_natCast, zpow_neg, zpow_natCast, Nat.pow_eq]
    rw [← div_eq_mul_inv, div_lt_iff₀ (by positivity), ← mul_assoc]
    norm_cast

theorem den_scaleTwo_pos {num den : Nat} (positive : 0 < den) (shift : Int) :
    0 < (scaleTwo num den shift).2 := by
  unfold scaleTwo
  split
  · exact positive
  · exact Nat.mul_pos positive (Nat.two_pow_pos _)

theorem roundEven_le {num den c : Nat} (below : num < c * den) : roundEven num den ≤ c := by
  have floor : num / den < c := Nat.div_lt_of_lt_mul (by rwa [Nat.mul_comm])
  unfold roundEven
  simp only
  split_ifs <;> omega

def exponentOf (num den : Nat) : Int :=
  let guess : Int := (num.log2 : Int) - den.log2 - 52
  let (a, b) := scaleTwo num den (-guess)
  max (-1074) (if a / b < leadingBit then guess - 1 else guess)

theorem scaled_lt_of_le {num den c : Nat} {low high : Int} (order : low ≤ high)
    (below : (num : ℚ) * 2 ^ high < c * den) : (num : ℚ) * 2 ^ low < c * den := by
  have powers : (2 : ℚ) ^ low ≤ 2 ^ high := zpow_le_zpow_right₀ one_le_two order
  exact lt_of_le_of_lt (by gcongr) below

theorem scaled_by_logs_lt (num : Nat) {den : Nat} (positive : 0 < den) :
    (num : ℚ) * 2 ^ (-((num.log2 : Int) - den.log2 - 52)) <
      ((2 * leadingBit : Nat) : ℚ) * den := by
  have upper : (num : ℚ) < 2 ^ (num.log2 + 1) := by exact_mod_cast Nat.lt_log2_self
  have lower : (2 : ℚ) ^ den.log2 ≤ den := by exact_mod_cast Nat.log2_self_le positive.ne'
  have powers : (2 : ℚ) ^ (num.log2 + 1) * 2 ^ (-((num.log2 : Int) - den.log2 - 52)) =
      ((2 * leadingBit : Nat) : ℚ) * 2 ^ den.log2 := by
    have size : ((2 * leadingBit : Nat) : ℚ) = 2 ^ (53 : Int) := by norm_num [leadingBit]
    rw [size, ← zpow_natCast, ← zpow_natCast, ← zpow_add₀ two_ne_zero, ← zpow_add₀ two_ne_zero]
    congr 1
    push_cast
    ring
  calc (num : ℚ) * 2 ^ (-((num.log2 : Int) - den.log2 - 52))
      < 2 ^ (num.log2 + 1) * 2 ^ (-((num.log2 : Int) - den.log2 - 52)) := by gcongr
    _ = ((2 * leadingBit : Nat) : ℚ) * 2 ^ den.log2 := powers
    _ ≤ ((2 * leadingBit : Nat) : ℚ) * den := by gcongr

theorem significand_lt (num : Nat) {den : Nat} (positive : 0 < den) :
    (num : ℚ) * 2 ^ (-exponentOf num den) < ((2 * leadingBit : Nat) : ℚ) * den := by
  have guessed := scaled_by_logs_lt num positive
  unfold exponentOf
  simp only
  split
  next small =>
    -- A quotient that is too small leaves room for one more bit.
    have half : (num : ℚ) * 2 ^ (-((num.log2 : Int) - den.log2 - 52)) <
        (leadingBit : Nat) * den := by
      rw [← scaleTwo_lt_iff]
      exact (Nat.div_lt_iff_lt_mul (den_scaleTwo_pos positive _)).1 small
    have doubled : (num : ℚ) * 2 ^ (-((num.log2 : Int) - den.log2 - 52) + 1) <
        ((2 * leadingBit : Nat) : ℚ) * den := by
      rw [zpow_add_one₀ two_ne_zero]
      push_cast
      linarith
    exact scaled_lt_of_le (by omega) doubled
  next => exact scaled_lt_of_le (by omega) guessed

theorem nearest_eq (num : Nat) {den : Nat} (positive : 0 < den) : nearest num den = .ofBits 0 ∨
    ∃ m exponent, m < 2 * leadingBit ∧ -1074 ≤ exponent ∧ nearest num den =
      if 971 < exponent then infinity
      else if m < leadingBit then .ofBits (.ofNat m)
      else .ofBits (.ofNat ((exponent + 1075).toNat * leadingBit + (m - leadingBit))) := by
  by_cases zero : num = 0
  · exact .inl (by rw [nearest, if_pos zero])
  · right
    have rounded := roundEven_le (scaleTwo_lt_iff.2 (significand_lt num positive))
    have least : -1074 ≤ exponentOf num den := le_max_left _ _
    have opened : nearest num den =
        let m := roundEven (scaleTwo num den (-exponentOf num den)).1
          (scaleTwo num den (-exponentOf num den)).2
        let kept := if m = 2 * leadingBit then (leadingBit, exponentOf num den + 1)
          else (m, exponentOf num den)
        if 971 < kept.2 then infinity
        else if kept.1 < leadingBit then .ofBits (.ofNat kept.1)
        else .ofBits (.ofNat ((kept.2 + 1075).toNat * leadingBit + (kept.1 - leadingBit))) := by
      rw [nearest, if_neg zero]
      rfl
    rw [opened]
    by_cases carried : roundEven (scaleTwo num den (-exponentOf num den)).1
        (scaleTwo num den (-exponentOf num den)).2 = 2 * leadingBit
    · refine ⟨leadingBit, exponentOf num den + 1, by decide, by omega, ?_⟩
      simp only [carried, if_true]
    · refine ⟨_, exponentOf num den, lt_of_le_of_ne rounded carried, least, ?_⟩
      simp only [carried, if_false]

theorem isNaN_nearest {num den : Nat} (positive : 0 < den) : (nearest num den).isNaN = false := by
  have zero : (Float.ofBits 0).isNaN = false := by decide
  have unbounded : infinity.isNaN = false := by decide
  rcases nearest_eq num positive with same | ⟨m, exponent, bounded, least, same⟩
  · rw [same, zero]
  · rw [same]
    split
    next => exact unbounded
    next most =>
      -- What is not infinite has an exponent below the one of all ones.
      rw [← Bool.not_eq_true]
      split
      next low =>
        rw [isNaN_ofBits]
        simp only [UInt64.toNat_ofNat', leadingBit] at low ⊢
        omega
      next high =>
        rw [isNaN_ofBits]
        simp only [UInt64.toNat_ofNat', leadingBit] at bounded high ⊢
        omega

theorem isNaN_ofDecimal (negative : Bool) (mantissa : Nat) (exponent : Int) :
    (ofDecimal negative mantissa exponent).isNaN = false := by
  have zero : (Float.ofBits 0).isNaN = false := by decide
  have unbounded : infinity.isNaN = false := by decide
  have size : ∀ x : Float, x.isNaN = false → (if negative then -x else x).isNaN = false := by
    intro x number
    cases negative with
    | true => exact (isNaN_neg x).trans number
    | false => exact number
  -- What is beyond all doubles is infinite, what is below them is zero, and the rest is rounded.
  unfold ofDecimal
  apply size
  split_ifs
  · exact zero
  · exact unbounded
  · exact zero
  · exact isNaN_nearest one_pos
  · exact isNaN_nearest (Nat.pos_of_ne_zero (by simp))

theorem isNaN_ofInt {n : Int} {x : Float} (made : ofInt? n = some x) : x.isNaN = false := by
  unfold ofInt? at made
  simp only at made
  split at made
  next => cases made
  next =>
    cases made
    split
    next => exact (isNaN_neg _).trans (isNaN_nearest one_pos)
    next => exact isNaN_nearest one_pos

def NanWord (cs : List Char) : Prop := isWord "nan" (takeSign cs).2 = true

def NanText (s : String) : Prop :=
  NanWord (Text.trimBy Text.isSpace s.toList) ∨
    ∃ cs, withoutUnderscores s.toList = some cs ∧ NanWord cs

theorem isWord_unique {word other : String} {cs : List Char} (own : isWord word cs = true)
    (also : isWord other cs = true) : word = other := by
  have same := (beq_iff_eq.1 own).symm.trans (beq_iff_eq.1 also)
  exact String.toList_inj.1 same

theorem isNaN_readReal {cs : List Char} {x : Float} (read : readReal cs = some x) :
    x.isNaN = true ↔ NanWord cs := by
  have unbounded : infinity.isNaN = false := by decide
  have undefined : notANumber.isNaN = true := by decide
  simp only [readReal] at read
  unfold NanWord
  split at read
  next endless =>
    have other : ¬ isWord "nan" (takeSign cs).2 = true := by
      intro nan
      rcases Bool.or_eq_true_iff.1 endless with inf | infinity
      · exact absurd (isWord_unique inf nan) (by decide)
      · exact absurd (isWord_unique infinity nan) (by decide)
    have signed : x.isNaN = false := by
      rw [← Option.some.inj read]
      split
      next => rw [isNaN_neg, unbounded]
      next => exact unbounded
    rw [signed]
    exact iff_of_false Bool.false_ne_true other
  next =>
    split at read
    next nan =>
      rw [← Option.some.inj read]
      exact iff_of_true undefined nan
    next other =>
      have number : x.isNaN = false := by
        split at read <;> split at read <;> first
          | cases read
          | (obtain ⟨e, _, rfl⟩ := Option.map_eq_some_iff.1 read
             exact isNaN_ofDecimal _ _ _)
      rw [number]
      exact iff_of_false Bool.false_ne_true other

theorem mem_takeSign {cs : List Char} (member : '_' ∈ cs) : '_' ∈ (takeSign cs).2 := by
  unfold takeSign
  split <;> simp_all

theorem not_isWord_of_underscore {word : String} {cs : List Char} (member : '_' ∈ cs)
    (plain : '_' ∉ word.toList) : isWord word cs = false := by
  rw [isWord, beq_eq_false_iff_ne]
  intro same
  exact plain (same ▸ List.mem_map.2 ⟨'_', member, by decide⟩)

theorem mem_dropWhile {p : Char → Bool} {cs : List Char} {c : Char} (member : c ∈ cs)
    (stays : p c = false) : c ∈ cs.dropWhile p := by
  rw [← List.takeWhile_append_dropWhile (p := p) (l := cs)] at member
  rcases List.mem_append.1 member with dropped | kept
  · have taken := List.mem_takeWhile_imp dropped
    rw [stays] at taken
    cases taken
  · exact kept

theorem readExponent_of_underscore {cs : List Char} (member : '_' ∈ cs) :
    readExponent cs = none := by
  cases cs with
  | nil => cases member
  | cons c rest =>
    unfold readExponent
    by_cases mark : (c = 'e' || c = 'E') = true
    · have behind : '_' ∈ rest := by
        rcases List.mem_cons.1 member with rfl | behind
        · simp at mark
        · exact behind
      have undigested : (takeSign rest).2.all Char.isDigit = false := by
        rw [List.all_eq_false]
        exact ⟨'_', mem_takeSign behind, by decide⟩
      simp [undigested]
    · simp [mark]

theorem readReal_of_underscore {cs : List Char} (member : '_' ∈ cs) : readReal cs = none := by
  have body := mem_takeSign member
  have rest : '_' ∈ (takeSign cs).2.dropWhile Char.isDigit := mem_dropWhile body (by decide)
  have unread : ∀ (part rest : List Char), '_' ∈ rest → ∀ f : Int → Float,
      (if ((takeSign cs).2.takeWhile Char.isDigit).isEmpty && part.isEmpty then none
        else (readExponent rest).map f) = none := by
    intro part rest member f
    rw [readExponent_of_underscore member]
    split <;> rfl
  simp only [readReal, not_isWord_of_underscore body (by decide : '_' ∉ "inf".toList),
    not_isWord_of_underscore body (by decide : '_' ∉ "infinity".toList),
    not_isWord_of_underscore body (by decide : '_' ∉ "nan".toList), Bool.or_self,
    Bool.false_eq_true, if_false]
  generalize (takeSign cs).2.dropWhile Char.isDigit = rest at *
  apply unread
  split
  next point after =>
    refine mem_dropWhile ?_ (by decide)
    simpa using rest
  next => exact rest

theorem mem_trimBy {blank : Char → Bool} {cs : List Char} {c : Char} (member : c ∈ cs)
    (solid : blank c = false) : c ∈ Text.trimBy blank cs := by
  unfold Text.trimBy
  rw [List.mem_reverse]
  exact mem_dropWhile (List.mem_reverse.2 (mem_dropWhile member solid)) solid

theorem isNaN_readLoose {s : String} {x : Float} (read : readLoose readReal s = some x) :
    x.isNaN = true ↔ NanText s := by
  have held {cs : List Char} (bare : withoutUnderscores s.toList = some cs) :
      '_' ∈ Text.trimBy Text.isSpace s.toList := by
    unfold withoutUnderscores at bare
    split at bare
    next inner => exact mem_trimBy (by simp_all) (by decide)
    next => cases bare
  -- The second reading is for texts with an underscore, none of which the first one reads.
  unfold readLoose at read
  unfold NanText
  split at read
  next y trimmed =>
    cases read
    rw [isNaN_readReal trimmed, or_iff_left]
    rintro ⟨cs, bare, _⟩
    rw [readReal_of_underscore (held bare)] at trimmed
    cases trimmed
  next untrimmed =>
    obtain ⟨cs, bare, read⟩ := Option.bind_eq_some_iff.1 read
    rw [isNaN_readReal read]
    constructor
    · exact fun nan => .inr ⟨cs, bare, nan⟩
    · rintro (nan | ⟨others, also, nan⟩)
      · have plain := not_isWord_of_underscore (mem_takeSign (held bare))
          (by decide : '_' ∉ "nan".toList)
        cases plain.symm.trans nan
      · cases bare.symm.trans also
        exact nan

end BackupConsole.Number

namespace BackupConsole.Given

/-- What is read as no number where a real is due. -/
def IsNan : Given → Prop
  | real x => x.isNaN = true
  | text s => Number.NanText s
  | bytes bs => ∃ s, utf8? bs = some s ∧ Number.NanText s
  | _ => False

theorem isNaN_toReal {g : Given} {x : Float} (read : g.toReal = .ok x) :
    x.isNaN = true ↔ g.IsNan := by
  have word {s : String} (read : realOfWord s = .ok x) : x.isNaN = true ↔ Number.NanText s := by
    unfold realOfWord at read
    split at read <;> cases read
    exact Number.isNaN_readLoose ‹_›
  cases g with
  | real y =>
    cases read
    exact Iff.rfl
  | text s => exact word read
  | bytes bs =>
    simp only [toReal] at read
    cases decoded : utf8? bs with
    | none => simp [decoded] at read
    | some s =>
      rw [decoded] at read
      rw [word read]
      simp [IsNan, decoded]
  | bool b =>
    cases read
    cases b <;> exact iff_of_false (by decide) id
  | int n =>
    simp only [toReal] at read
    split at read <;> cases read
    next made =>
      rw [Number.isNaN_ofInt made]
      exact iff_of_false Bool.false_ne_true id
  | _ => cases read

end BackupConsole.Given
