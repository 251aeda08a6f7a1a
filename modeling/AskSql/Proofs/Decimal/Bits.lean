import AskSql.Decimal.Layout
import AskSql.Decimal.Numeral
import Mathlib

/-!
The bits of a number of 64 bits.

The highest bit is the sign, and what is left of the bits tells the magnitude: below the bits of
infinity are the finite numbers, above them the NaNs. Changing the sign of a number changes the
highest bit and nothing else, so that a number is put together again from its sign and its
magnitude. The whole library is imported since no part of it brings along what is known of packing
and unpacking numbers (`UnpackedFloat.pack_unpack` and the equations of the fields).

* `magnitudeBits`: the bits without the sign.
* `magnitudeBits_lt`, `magnitudeBits_eq_iff`: what they are for finite and infinite numbers.
* `neg_ofBits`: a change of sign, in bits.
* `withSign_magnitude`: sign and magnitude make the number.
-/

namespace AskSql.Decimal

open Float.Model
open Float.Model.UnpackedFloat (unpackExponent unpackMantissa unpackSign isNaNBits)

/-- The bits of a number without the sign. -/
def magnitudeBits (x : Float) : Nat := x.toBits.toNat % Binary.signBit64

/-! ### The fields -/

section Fields

variable {b b' : BitVec Format.binary64.numBits}

lemma toNat_unpackExponent (b : BitVec Format.binary64.numBits) :
    (unpackExponent b).toNat = b.toNat / 2 ^ 52 % 2 ^ 11 := by
  rw [UnpackedFloat.unpackExponent_def, BitVec.extractLsb'_toNat, Nat.shiftRight_eq_div_pow]

lemma toNat_unpackMantissa (b : BitVec Format.binary64.numBits) :
    (unpackMantissa b).toNat = b.toNat % 2 ^ 52 := by
  rw [UnpackedFloat.unpackMantissa_def, BitVec.extractLsb'_toNat, Nat.shiftRight_zero]

lemma toNat_unpackSign (b : BitVec Format.binary64.numBits) :
    (unpackSign b).toNat = b.toNat / 2 ^ 63 % 2 := by
  rw [UnpackedFloat.unpackSign_def, BitVec.extractLsb'_toNat, Nat.shiftRight_eq_div_pow]
  rfl

/-- Infinity and NaN have the highest exponent. -/
lemma unpackExponent_eq_iff :
    unpackExponent b = -BitVec.ofNat Format.binary64.exponentBits 1
      ↔ b.toNat / 2 ^ 52 % 2 ^ 11 = 2047 := by
  rw [← BitVec.toNat_inj, toNat_unpackExponent]
  rfl

lemma unpackMantissa_eq_iff :
    unpackMantissa b = BitVec.ofNat Format.binary64.mantissaBitsWithoutImplicit 0
      ↔ b.toNat % 2 ^ 52 = 0 := by
  rw [← BitVec.toNat_inj, toNat_unpackMantissa]
  rfl

lemma isNaN_unpack_iff : (UnpackedFloat.unpack Format.binary64 b).isNaN = true ↔
    b.toNat / 2 ^ 52 % 2 ^ 11 = 2047 ∧ b.toNat % 2 ^ 52 ≠ 0 := by
  rw [← unpackExponent_eq_iff, ne_eq, ← unpackMantissa_eq_iff]
  simp only [UnpackedFloat.unpack]
  split_ifs <;> simp_all [UnpackedFloat.isNaN]

lemma isInf_unpack_iff : (UnpackedFloat.unpack Format.binary64 b).isInf = true ↔
    b.toNat / 2 ^ 52 % 2 ^ 11 = 2047 ∧ b.toNat % 2 ^ 52 = 0 := by
  rw [← unpackExponent_eq_iff, ← unpackMantissa_eq_iff]
  simp only [UnpackedFloat.unpack]
  split_ifs <;> simp_all [UnpackedFloat.isInf]

/-- Bits that differ in the sign alone stand for numbers that do so. -/
lemma neg_unpack (hexponent : unpackExponent b = unpackExponent b')
    (hmantissa : unpackMantissa b = unpackMantissa b')
    (hsign : -UnpackedFloat.Sign.ofBitVec (unpackSign b)
      = UnpackedFloat.Sign.ofBitVec (unpackSign b')) :
    (UnpackedFloat.unpack Format.binary64 b).neg = UnpackedFloat.unpack Format.binary64 b' := by
  simp only [UnpackedFloat.unpack, hexponent, hmantissa, ← hsign]
  split_ifs <;> simp [UnpackedFloat.neg]

end Fields

/-! ### Numbers and their bits -/

lemma isNaN_iff (x : Float) : x.isNaN = true ↔
    x.toBits.toNat / 2 ^ 52 % 2 ^ 11 = 2047 ∧ x.toBits.toNat % 2 ^ 52 ≠ 0 :=
  isNaN_unpack_iff

lemma isInf_iff (x : Float) : x.isInf = true ↔
    x.toBits.toNat / 2 ^ 52 % 2 ^ 11 = 2047 ∧ x.toBits.toNat % 2 ^ 52 = 0 :=
  isInf_unpack_iff

/-- A number that is not NaN is infinity at most. -/
lemma magnitudeBits_le {x : Float} (h : x.isNaN = false) : magnitudeBits x ≤ infinityBits := by
  have hnot : ¬ (x.toBits.toNat / 2 ^ 52 % 2 ^ 11 = 2047 ∧ x.toBits.toNat % 2 ^ 52 ≠ 0) := by
    rw [← isNaN_iff, h]
    exact Bool.false_ne_true
  have hbound : x.toBits.toNat < 2 ^ 64 := x.toBits.toNat_lt
  rw [magnitudeBits, Binary.signBit64, infinityBits]
  omega

lemma magnitudeBits_eq_iff (x : Float) :
    magnitudeBits x = infinityBits ↔ x.isInf = true := by
  have hbound : x.toBits.toNat < 2 ^ 64 := x.toBits.toNat_lt
  rw [isInf_iff, magnitudeBits, Binary.signBit64, infinityBits]
  omega

/-- A finite number is below infinity. -/
lemma magnitudeBits_lt {x : Float} (hnan : x.isNaN = false) (hinf : x.isInf = false) :
    magnitudeBits x < infinityBits := by
  refine lt_of_le_of_ne (magnitudeBits_le hnan) fun heq => ?_
  rw [magnitudeBits_eq_iff, hinf] at heq
  cases heq

/-! ### The sign -/

/-- Bits that are not those of a NaN are kept. -/
lemma toBits_ofBits {b : UInt64} (h : ¬ (b.toNat / 2 ^ 52 % 2 ^ 11 = 2047 ∧ b.toNat % 2 ^ 52 ≠ 0)) :
    (Float.ofBits b).toBits = b := by
  have hnot : @isNaNBits Format.binary64 b.toBitVec = false := by
    rw [isNaNBits, decide_eq_false_iff_not, unpackExponent_eq_iff, ne_eq, unpackMantissa_eq_iff]
    exact h
  have hpack := @UnpackedFloat.pack_unpack Format.binary64 b.toBitVec (by decide)
  rw [hnot] at hpack
  exact UInt64.toBitVec_inj.mp hpack

lemma toNat_toUInt64 {n : Nat} (h : n < 2 ^ 64) : n.toUInt64.toNat = n :=
  UInt64.toNat_ofNat_of_lt' h

/-- A number with its sign changed, in bits. -/
lemma neg_ofBits {n : Nat} (h : n ≤ infinityBits) :
    -Float.ofBits n.toUInt64 = Float.ofBits (Binary.signBit64 + n).toUInt64 := by
  rw [infinityBits] at h
  have hpositive : n.toUInt64.toNat = n := toNat_toUInt64 (by omega)
  have hnegative : (Binary.signBit64 + n).toUInt64.toNat = Binary.signBit64 + n :=
    toNat_toUInt64 (by rw [Binary.signBit64]; omega)
  have hbits : (Float.ofBits n.toUInt64).toBits = n.toUInt64 := by
    refine toBits_ofBits ?_
    rw [hpositive]
    omega
  have hneg : (UnpackedFloat.unpack Format.binary64 n.toUInt64.toBitVec).neg
      = UnpackedFloat.unpack Format.binary64 (Binary.signBit64 + n).toUInt64.toBitVec := by
    refine neg_unpack ?_ ?_ ?_
    · rw [← BitVec.toNat_inj, toNat_unpackExponent, toNat_unpackExponent, UInt64.toNat_toBitVec,
        UInt64.toNat_toBitVec, hpositive, hnegative, Binary.signBit64]
      omega
    · rw [← BitVec.toNat_inj, toNat_unpackMantissa, toNat_unpackMantissa, UInt64.toNat_toBitVec,
        UInt64.toNat_toBitVec, hpositive, hnegative, Binary.signBit64]
      omega
    · have hplus : @unpackSign Format.binary64 n.toUInt64.toBitVec = 0#1 := by
        rw [← BitVec.toNat_inj, toNat_unpackSign, UInt64.toNat_toBitVec, hpositive,
          Nat.div_eq_of_lt (by omega)]
        rfl
      have hminus :
          @unpackSign Format.binary64 (Binary.signBit64 + n).toUInt64.toBitVec = 1#1 := by
        rw [← BitVec.toNat_inj, toNat_unpackSign, UInt64.toNat_toBitVec, hnegative,
          Binary.signBit64, BitVec.toNat_ofNat]
        omega
      rw [hplus, hminus]
      rfl
  have hunfold : -Float.ofBits n.toUInt64 = Float.ofModel (.pack
      (UnpackedFloat.unpack Format.binary64 (Float.ofBits n.toUInt64).toBits.toBitVec).neg) := rfl
  rw [hunfold, hbits, hneg]
  rfl

/-- Sign and magnitude make the number. -/
theorem withSign_magnitude {x : Float} (h : x.isNaN = false) :
    (if x.toBits.toNat ≥ Binary.signBit64 then -Float.ofBits (magnitudeBits x).toUInt64
      else Float.ofBits (magnitudeBits x).toUInt64) = x := by
  have hbound : x.toBits.toNat < 2 ^ 64 := x.toBits.toNat_lt
  have hbits : ∀ n, n = x.toBits.toNat → Float.ofBits n.toUInt64 = x := by
    rintro n rfl
    have hsame : x.toBits.toNat.toUInt64 = x.toBits := UInt64.ofNat_toNat
    rw [hsame]
    exact Float.ofBits_toBits x
  split
  · next hneg =>
      rw [neg_ofBits (magnitudeBits_le h)]
      refine hbits _ ?_
      rw [magnitudeBits]
      rw [Binary.signBit64] at hneg ⊢
      omega
  · next hpos =>
      exact hbits _ (Nat.mod_eq_of_lt (Nat.lt_of_not_ge hpos))

end AskSql.Decimal
