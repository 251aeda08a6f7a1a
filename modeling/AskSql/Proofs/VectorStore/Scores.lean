import AskSql.VectorStore
import Mathlib

/-!
The order of scores.

Scores are ranked by their bits: the sign decides first, and then the magnitude, which counts
backwards below zero. This is the total order of numbers of 32 bits: numbers by size, negative zero
below zero, and NaNs below or above all of them, as their signs say. All bits have their own rank,
so that scores of the same rank are the same. The whole library is imported for what is known of
packing and unpacking numbers, as for their 64 bits.

* `Binary32.Parts`: what bits with a sign and a magnitude stand for.
* `Binary32.compare_eq_lt_iff`: numbers compare like their signs and magnitudes.
* `Embedding.parts_ofBits`, `Embedding.ofBits_lt_iff`: the numbers of bits, and how they compare.
* `Embedding.Below`: the total order, told by the comparison of numbers.
* `Embedding.rank_lt_iff`, `Embedding.rank_inj`: the rank is that order.
-/

namespace AskSql

namespace Binary32

open Float.Model
open Float.Model.UnpackedFloat (unpackExponent unpackMantissa unpackSign)

/-! ### The parts of a number -/

/-- The magnitude of infinity; larger ones are those of a NaN. -/
def infinityBits : Nat := 0x7F800000

/-- What bits with the sign `s` and the magnitude `p` stand for. In a finite number `k` is the step
of the exponent, and all steps but the first one have the leading bit in the mantissa. -/
inductive Parts (s : UnpackedFloat.Sign) (p : Nat) : UnpackedFloat → Prop
  | notANumber (h : infinityBits < p) : Parts s p .notANumber
  | infinity (h : p = infinityBits) : Parts s p (.infinity s)
  | zero (h : p = 0) : Parts s p (.zero s)
  | finite (m k : Nat) (hpos : 0 < m) (h : p = k * 2 ^ 23 + m) (hlt : p < infinityBits)
      (hm : m < 2 ^ 24) (hk : k ≠ 0 → 2 ^ 23 ≤ m) : Parts s p (.finite s m (k - 149) hpos)

section Fields

variable (b : BitVec Format.binary32.numBits)

lemma toNat_unpackExponent : (unpackExponent b).toNat = b.toNat / 2 ^ 23 % 2 ^ 8 := by
  rw [UnpackedFloat.unpackExponent_def, BitVec.extractLsb'_toNat, Nat.shiftRight_eq_div_pow]

lemma toNat_unpackMantissa : (unpackMantissa b).toNat = b.toNat % 2 ^ 23 := by
  rw [UnpackedFloat.unpackMantissa_def, BitVec.extractLsb'_toNat, Nat.shiftRight_zero]

lemma toNat_unpackSign : (unpackSign b).toNat = b.toNat / 2 ^ 31 % 2 := by
  rw [UnpackedFloat.unpackSign_def, BitVec.extractLsb'_toNat, Nat.shiftRight_eq_div_pow]
  rfl

/-- The mantissa with its leading bit. -/
lemma toNat_leading : (1#1 ++ unpackMantissa b).toNat = 2 ^ 23 + b.toNat % 2 ^ 23 := by
  rw [BitVec.toNat_append, ← Nat.shiftLeft_add_eq_or_of_lt (unpackMantissa b).isLt,
    toNat_unpackMantissa]
  rfl

/-- Bits are taken apart into their sign and what their magnitude stands for. -/
lemma parts_unpack :
    Parts (UnpackedFloat.Sign.ofBitVec (unpackSign b)) (b.toNat % 2 ^ 31)
      (UnpackedFloat.unpack Format.binary32 b) := by
  have hbound : b.toNat < 2 ^ 32 := b.isLt
  have hexponent := toNat_unpackExponent b
  have hmantissa := toNat_unpackMantissa b
  have hleading := toNat_leading b
  have hhighest : unpackExponent b = -BitVec.ofNat Format.binary32.exponentBits 1
      ↔ b.toNat / 2 ^ 23 % 2 ^ 8 = 255 := by
    rw [← BitVec.toNat_inj, hexponent]
    rfl
  have hlowest : unpackExponent b = BitVec.ofNat Format.binary32.exponentBits 0
      ↔ b.toNat / 2 ^ 23 % 2 ^ 8 = 0 := by
    rw [← BitVec.toNat_inj, hexponent]
    rfl
  have hempty : unpackMantissa b = BitVec.ofNat Format.binary32.mantissaBitsWithoutImplicit 0
      ↔ b.toNat % 2 ^ 23 = 0 := by
    rw [← BitVec.toNat_inj, hmantissa]
    rfl
  have hbias : Format.binary32.exponentBias = 127 := rfl
  have hinfinity : infinityBits = 255 * 2 ^ 23 := rfl
  simp only [UnpackedFloat.unpack]
  split_ifs with he hm he' hm'
  · rw [hhighest] at he
    rw [hempty] at hm
    exact .infinity (by omega)
  · rw [hhighest] at he
    rw [hempty] at hm
    exact .notANumber (by omega)
  · rw [hlowest] at he'
    rw [hempty] at hm'
    exact .zero (by omega)
  · rw [hhighest] at he
    rw [hlowest] at he'
    rw [hempty] at hm'
    have hparts := Parts.finite (s := UnpackedFloat.Sign.ofBitVec (unpackSign b))
      (p := b.toNat % 2 ^ 31) (unpackMantissa b).toNat 0 (by omega) (by omega) (by omega) (by omega)
      (by simp)
    convert hparts using 2
    rw [hexponent, he', hbias]
    rfl
  · rw [hhighest] at he
    rw [hlowest] at he'
    have hparts := Parts.finite (s := UnpackedFloat.Sign.ofBitVec (unpackSign b))
      (p := b.toNat % 2 ^ 31) (1#1 ++ unpackMantissa b).toNat (b.toNat / 2 ^ 23 % 2 ^ 8 - 1)
      (by omega) (by omega) (by omega) (by omega) (by omega)
    convert hparts using 2
    rw [hexponent, hbias]
    omega

end Fields

/-- A NaN is what lies beyond infinity. -/
lemma Parts.isNaN_iff {s : UnpackedFloat.Sign} {p : Nat} {x : UnpackedFloat} (h : Parts s p x) :
    x.isNaN = true ↔ infinityBits < p := by
  cases h <;> simp [UnpackedFloat.isNaN] <;> omega

lemma isNaNBits_iff (b : BitVec Format.binary32.numBits) :
    UnpackedFloat.isNaNBits b = true ↔ infinityBits < b.toNat % 2 ^ 31 := by
  rw [← (parts_unpack b).isNaN_iff, UnpackedFloat.isNaNBits, decide_eq_true_iff]
  simp only [UnpackedFloat.unpack]
  split_ifs <;> simp_all [UnpackedFloat.isNaN]

/-! ### Comparing numbers -/

/-- The place of a sign and a magnitude: below zero the magnitudes count backwards. -/
def place : UnpackedFloat.Sign → Nat → Int
  | .positive, p => p
  | .negative, p => -1 - p

/-- Steps are compared before mantissas, which comes to comparing magnitudes. -/
lemma compare_steps_eq_lt_iff {k k' m m' : Nat} (hm : m < 2 ^ 24) (hm' : m' < 2 ^ 24)
    (hk : k ≠ 0 → 2 ^ 23 ≤ m) (hk' : k' ≠ 0 → 2 ^ 23 ≤ m') :
    (compare ((k : Int) - 149) (k' - 149)).then (compare m m') = .lt
      ↔ k * 2 ^ 23 + m < k' * 2 ^ 23 + m' := by
  rw [Ordering.then_eq_lt, compare_lt_iff_lt, compare_eq_iff_eq, compare_lt_iff_lt]
  omega

lemma compare_steps_eq_gt_iff {k k' m m' : Nat} (hm : m < 2 ^ 24) (hm' : m' < 2 ^ 24)
    (hk : k ≠ 0 → 2 ^ 23 ≤ m) (hk' : k' ≠ 0 → 2 ^ 23 ≤ m') :
    (compare ((k : Int) - 149) (k' - 149)).then (compare m m') = .gt
      ↔ k' * 2 ^ 23 + m' < k * 2 ^ 23 + m := by
  rw [Ordering.then_eq_gt, compare_gt_iff_gt, compare_eq_iff_eq, compare_gt_iff_gt]
  omega

/-- A number is less than another one just if neither is a NaN and its place is before the other's,
unless both are zeros. -/
lemma compare_eq_lt_iff {s s' : UnpackedFloat.Sign} {p p' : Nat} {x y : UnpackedFloat}
    (hx : Parts s p x) (hy : Parts s' p' y) :
    x.compare y = some .lt
      ↔ p ≤ infinityBits ∧ p' ≤ infinityBits ∧ place s p < place s' p' ∧ ¬ (p = 0 ∧ p' = 0) := by
  have hinfinity : infinityBits = 0x7F800000 := rfl
  cases s <;> cases s' <;> cases hx <;> cases hy <;> simp [UnpackedFloat.compare, place]
  -- what is left after the cases in which the kinds or the signs of the numbers decide
  case negative.positive.infinity.infinity =>
    have hsigns : compare UnpackedFloat.Sign.negative .positive = .lt := rfl
    simp only [hsigns, true_iff]
    omega
  case negative.negative.finite.finite m k _ h _ hm hk m' k' _ h' _ hm' hk' =>
    rw [compare_steps_eq_gt_iff hm hm' hk hk']
    omega
  case positive.positive.finite.finite m k _ h _ hm hk m' k' _ h' _ hm' hk' =>
    rw [compare_steps_eq_lt_iff hm hm' hk hk']
    omega
  all_goals omega

end Binary32

namespace Embedding

open Binary32
open Float.Model (Format UnpackedFloat)

/-! ### Bits and the numbers they stand for -/

/-- The sign of bits. -/
def signOf (bits : UInt32) : UnpackedFloat.Sign :=
  if bits.toNat < 0x80000000 then .positive else .negative

/-- The magnitude of bits. -/
def magnitudeOf (bits : UInt32) : Nat := bits.toNat % 2 ^ 31

/-- The rank of bits, as their sign and their magnitude tell it. -/
lemma rank_cases (bits : UInt32) :
    (signOf bits = .positive ∧ bits.toNat = magnitudeOf bits ∧ rank bits = magnitudeOf bits)
      ∨ (signOf bits = .negative ∧ bits.toNat = 0x80000000 + magnitudeOf bits
        ∧ rank bits = -1 - (magnitudeOf bits : Int)) := by
  have hbound : bits.toNat < 2 ^ 32 := bits.toNat_lt
  rw [signOf, magnitudeOf, rank]
  split
  · exact .inl ⟨rfl, by omega, by omega⟩
  · exact .inr ⟨rfl, by omega, by omega⟩

lemma rank_eq_place (bits : UInt32) : rank bits = place (signOf bits) (magnitudeOf bits) := by
  rcases rank_cases bits with ⟨hsign, -, hrank⟩ | ⟨hsign, -, hrank⟩ <;> rw [hsign, hrank, place]

/-- Bits taken apart. -/
lemma parts_bits (bits : UInt32) :
    Parts (signOf bits) (magnitudeOf bits)
      (UnpackedFloat.unpack Format.binary32 bits.toBitVec) := by
  have hbit : (@UnpackedFloat.unpackSign Format.binary32 bits.toBitVec).toNat
      = bits.toNat / 2 ^ 31 % 2 := toNat_unpackSign bits.toBitVec
  have hbound : bits.toNat < 2 ^ 32 := bits.toNat_lt
  have hsign : UnpackedFloat.Sign.ofBitVec (@UnpackedFloat.unpackSign Format.binary32 bits.toBitVec)
      = signOf bits := by
    refine if_congr ?_ rfl rfl
    rw [← BitVec.toNat_inj, hbit, BitVec.toNat_ofNat]
    omega
  rw [← hsign]
  exact parts_unpack bits.toBitVec

/-- The number that bits stand for. All NaNs are one number. -/
lemma parts_ofBits (bits : UInt32) :
    Parts (signOf bits) (magnitudeOf bits) (Float32.ofBits bits).toModel.unpack := by
  have hparts := parts_bits bits
  have hunpack : (Float32.ofBits bits).toModel.unpack = UnpackedFloat.unpack Format.binary32
      (UnpackedFloat.pack Format.binary32
        (UnpackedFloat.unpack Format.binary32 bits.toBitVec)) := rfl
  rw [hunpack, UnpackedFloat.pack_unpack]
  split
  case isTrue hnan =>
    rw [UnpackedFloat.unpack_packedNaN]
    exact .notANumber ((isNaNBits_iff _).mp hnan)
  case isFalse => exact hparts

lemma isNaN_ofBits_iff (bits : UInt32) :
    (Float32.ofBits bits).isNaN = true ↔ infinityBits < magnitudeOf bits :=
  (parts_ofBits bits).isNaN_iff

/-- The number of some bits is less than that of others just if neither is a NaN and the bits rank
lower, unless both are zeros. -/
lemma ofBits_lt_iff (a b : UInt32) :
    Float32.ofBits a < Float32.ofBits b
      ↔ magnitudeOf a ≤ infinityBits ∧ magnitudeOf b ≤ infinityBits ∧ rank a < rank b
        ∧ ¬ (magnitudeOf a = 0 ∧ magnitudeOf b = 0) := by
  rw [rank_eq_place, rank_eq_place, ← compare_eq_lt_iff (parts_ofBits a) (parts_ofBits b)]
  have hunfold : Float32.ofBits a < Float32.ofBits b
      ↔ decide ((Float32.ofBits a).toModel < (Float32.ofBits b).toModel) = true := Iff.rfl
  rw [hunfold, decide_eq_true_iff]
  exact beq_iff_eq

/-! ### The total order -/

/-- Bits stand for a NaN of this sign. -/
def IsNaN (s : UnpackedFloat.Sign) (bits : UInt32) : Prop :=
  signOf bits = s ∧ (Float32.ofBits bits).isNaN = true

/-- The total order of bits. Numbers stand by size, and negative zero below zero; NaNs with a minus
sign stand below everything else, and those without above everything else. Among themselves NaNs
stand by magnitude, which counts backwards for those with a minus sign. -/
inductive Below (a b : UInt32) : Prop
  | number (h : Float32.ofBits a < Float32.ofBits b)
  | zero (ha : a = 0x80000000) (hb : b = 0)
  | fromBelow (ha : IsNaN .negative a) (hb : ¬ IsNaN .negative b)
  | toAbove (ha : ¬ IsNaN .positive a) (hb : IsNaN .positive b)
  | negative (ha : IsNaN .negative a) (hb : IsNaN .negative b) (h : magnitudeOf b < magnitudeOf a)
  | positive (ha : IsNaN .positive a) (hb : IsNaN .positive b) (h : magnitudeOf a < magnitudeOf b)

/-- NaNs have the ranks beyond those of the infinities. -/
lemma isNaN_negative_iff (bits : UInt32) :
    IsNaN .negative bits ↔ rank bits < -1 - (infinityBits : Int) := by
  rw [IsNaN, isNaN_ofBits_iff]
  rcases rank_cases bits with ⟨hsign, -, hrank⟩ | ⟨hsign, -, hrank⟩
  · simp only [hsign, reduceCtorEq, false_and, false_iff]
    omega
  · simp only [hsign, true_and]
    omega

lemma isNaN_positive_iff (bits : UInt32) :
    IsNaN .positive bits ↔ (infinityBits : Int) < rank bits := by
  rw [IsNaN, isNaN_ofBits_iff]
  rcases rank_cases bits with ⟨hsign, -, hrank⟩ | ⟨hsign, -, hrank⟩
  · simp only [hsign, true_and]
    omega
  · simp only [hsign, reduceCtorEq, false_and, false_iff]
    omega

/-- Different bits have different ranks. -/
theorem rank_inj {a b : UInt32} : rank a = rank b ↔ a = b := by
  refine ⟨fun h => ?_, congrArg rank⟩
  have ha := rank_cases a
  have hb := rank_cases b
  rw [← UInt32.toNat_inj]
  omega

/-- The rank of bits is their place in the total order. -/
theorem rank_lt_iff (a b : UInt32) : rank a < rank b ↔ Below a b := by
  have hplace := rank_cases a
  have hplace' := rank_cases b
  have hzero : rank 0 = 0 := rfl
  have hnegative : rank 0x80000000 = -1 := rfl
  constructor
  · intro h
    by_cases ha : IsNaN .negative a
    · by_cases hb : IsNaN .negative b
      · refine .negative ha hb ?_
        rw [isNaN_negative_iff] at ha hb
        omega
      · exact .fromBelow ha hb
    by_cases hb : IsNaN .positive b
    · by_cases ha' : IsNaN .positive a
      · refine .positive ha' hb ?_
        rw [isNaN_positive_iff] at ha' hb
        omega
      · exact .toAbove ha' hb
    -- both are numbers
    rw [isNaN_negative_iff] at ha
    rw [isNaN_positive_iff] at hb
    by_cases hzeros : magnitudeOf a = 0 ∧ magnitudeOf b = 0
    · have hsame : rank a = rank 0x80000000 ∧ rank b = rank 0 := by omega
      exact .zero (rank_inj.mp hsame.1) (rank_inj.mp hsame.2)
    · have hnumbers : magnitudeOf a ≤ infinityBits ∧ magnitudeOf b ≤ infinityBits := by omega
      exact .number ((ofBits_lt_iff a b).mpr ⟨hnumbers.1, hnumbers.2, h, hzeros⟩)
  · intro h
    cases h with
    | number h => exact ((ofBits_lt_iff a b).mp h).2.2.1
    | zero ha hb =>
        rw [ha, hb]
        omega
    | fromBelow ha hb =>
        rw [isNaN_negative_iff] at ha hb
        omega
    | toAbove ha hb =>
        rw [isNaN_positive_iff] at ha hb
        omega
    | negative ha hb h =>
        rw [isNaN_negative_iff] at ha hb
        omega
    | positive ha hb h =>
        rw [isNaN_positive_iff] at ha hb
        omega

/-! ### The scores of a store -/

/-- The bits of a score stand for it. -/
lemma ofBits_scoreBits (score : Float32) : Float32.ofBits (scoreBits score) = score := by
  rw [scoreBits]
  split
  case isTrue hnan =>
    have hscore : score = Float32.nan := by simpa using hnan
    rw [hscore]
    rfl
  case isFalse => exact Float32.ofBits_toBits score

end Embedding

end AskSql
