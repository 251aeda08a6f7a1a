import AskSql.Json.Printer
import AskSql.Proofs.Decimal.Bits
import AskSql.Proofs.Decimal.Rounding
import AskSql.Proofs.Decimal.Written

/-!
Numbers, written down and read back.

An integer is a numeral without fraction and exponent. For a number of 64 bits a format writes a
decimal from the interval of the number, and whatever lies there rounds to the number. So every
finite number is read back, to the bit, whatever the format decides about the form; the sign of zero
is part of it. Infinity has a word of its own behind its sign.

* `Numeral.read_writeInteger`, `Numeral.integer_ofInteger`: an integer is read back.
* `Numeral.toFloat_of_holds`: a numeral in the interval of a number is read as that number.
* `Layout.read_float`: what a format writes is read back.
* `Layout.float_of_isInf`: infinity of either sign.
-/

namespace AskSql.Decimal

namespace Numeral

/-! ### Integers -/

/-- The integer that a numeral without fraction and exponent stands for. -/
def integer (n : Numeral) : Int :=
  if n.negative then -(digitsValue n.whole : Int) else digitsValue n.whole

/-- The numeral of an integer. -/
def ofInteger (i : Int) : Numeral := ⟨decide (i < 0), digitsOf i.natAbs, [], none⟩

lemma writeInteger_eq (i : Int) :
    Json.writeInteger i = (if i < 0 then ['-'] else []) ++ digitsOf i.natAbs := by
  cases i with
  | ofNat n =>
      have hpositive : ¬ (n : Int) < 0 := by omega
      simp [Json.writeInteger, hpositive]
  | negSucc n => simp [Json.writeInteger]

lemma ofInteger_text (i : Int) : (ofInteger i).text [] = Json.writeInteger i := by
  rw [writeInteger_eq]
  simp [ofInteger, text, exponentText]

lemma ofInteger_wellFormed (i : Int) : (ofInteger i).WellFormed where
  whole_digits c hc := isDigit_of_mem_digitsOf hc
  whole_ne_nil := digitsOf_ne_nil _
  whole_zero hhead := by
    have hzero : i.natAbs = 0 :=
      Nat.eq_zero_of_not_pos fun hpositive => head_digitsOf_ne_zero hpositive hhead
    rw [ofInteger, hzero]
    rfl
  fraction_digits := List.forall_mem_nil _
  exponent_digits e he := by cases he

/-- **An integer is read back** as its numeral. -/
theorem read_writeInteger (i : Int) : read (Json.writeInteger i) = some (ofInteger i, []) := by
  rw [← ofInteger_text]
  exact read_text (.inl rfl) (ofInteger_wellFormed i)

@[simp] lemma integer_ofInteger (i : Int) : (ofInteger i).integer = i := by
  rw [integer, ofInteger, digitsValue_digitsOf]
  dsimp only
  split
  · next hneg =>
      have hlt := of_decide_eq_true hneg
      omega
  · next hpos =>
      have hge : ¬ i < 0 := fun hlt => hpos (decide_eq_true hlt)
      omega

/-! ### Finite numbers -/

variable {n : Numeral} {bits : Nat}

/-- The powers of ten at which numerals are cut off are beyond all numbers. -/
lemma two_pow_lt_ten_pow : (2 : ℚ) ^ 1203 < 10 ^ 401 :=
  calc (2 : ℚ) ^ 1203 = (2 ^ 3) ^ 401 := (pow_mul 2 3 401)
    _ < 10 ^ 401 := by
        gcongr
        norm_num

lemma ten_zpow_lt_two_zpow : (10 : ℚ) ^ (-401 : Int) < 2 ^ (-1203 : Int) := by
  rw [zpow_neg, zpow_neg]
  exact inv_strictAnti₀ (by positivity) two_pow_lt_ten_pow

/-- A numeral in the interval of a number is not cut off as too small. -/
lemma not_tiny {x : Binary} (h : x.Encodes bits) (hholds : x.Holds n.value) :
    ¬ n.writtenExponent - n.fraction.length + ((digitsValue (n.whole ++ n.fraction)).log2 + 1)
      < -400 := by
  intro hlt
  have hlow := h.le_of_holds hholds
  rw [value] at hlow
  generalize n.writtenExponent - n.fraction.length = exponent at *
  generalize digitsValue (n.whole ++ n.fraction) = digits at *
  have hsize : (digits : ℚ) ≤ 10 ^ (digits.log2 + 1) := by
    have htwo : digits ≤ 2 ^ (digits.log2 + 1) := Nat.lt_log2_self.le
    have hten : 2 ^ (digits.log2 + 1) ≤ 10 ^ (digits.log2 + 1) :=
      Nat.pow_le_pow_left (by norm_num) _
    exact_mod_cast htwo.trans hten
  have hloop : (2 : ℚ) ^ (-1075 : Int) < 2 ^ (-1075 : Int) :=
    calc (2 : ℚ) ^ (-1075 : Int) ≤ digits * 10 ^ exponent := hlow
      _ ≤ 10 ^ (digits.log2 + 1) * 10 ^ exponent := by gcongr
      _ = 10 ^ (exponent + (digits.log2 + 1)) := by
          rw [← zpow_natCast, ← zpow_add₀ (by norm_num), add_comm]
          push_cast
          rfl
      _ ≤ 10 ^ (-401 : Int) := zpow_le_zpow_right₀ (by norm_num) (by omega)
      _ < 2 ^ (-1203 : Int) := ten_zpow_lt_two_zpow
      _ ≤ 2 ^ (-1075 : Int) := zpow_le_zpow_right₀ (by norm_num) (by norm_num)
  exact lt_irrefl _ hloop

/-- Nor is it cut off as too large. -/
lemma not_huge {x : Binary} (h : x.Encodes bits) (hfinite : bits < infinityBits)
    (hholds : x.Holds n.value) : ¬ 400 < n.writtenExponent - n.fraction.length := by
  intro hlt
  have hhigh := h.lt_of_holds hholds
  have hlow := h.le_of_holds hholds
  rw [value] at hhigh hlow
  generalize n.writtenExponent - n.fraction.length = exponent at *
  have hdigits : digitsValue (n.whole ++ n.fraction) ≠ 0 := by
    intro hzero
    rw [hzero, Nat.cast_zero, zero_mul] at hlow
    exact absurd hlow (by norm_num)
  generalize digitsValue (n.whole ++ n.fraction) = digits at *
  have hone : (1 : ℚ) ≤ digits := by exact_mod_cast Nat.pos_of_ne_zero hdigits
  have hq := h.q_le hfinite
  have hloop : (10 : ℚ) ^ (401 : Int) < 10 ^ (401 : Int) :=
    calc (10 : ℚ) ^ (401 : Int) ≤ 10 ^ exponent := zpow_le_zpow_right₀ (by norm_num) (by omega)
      _ ≤ digits * 10 ^ exponent := le_mul_of_one_le_left (by positivity) hone
      _ < 2 ^ (53 + x.q) := hhigh
      _ ≤ 2 ^ (1203 : Int) := zpow_le_zpow_right₀ (by norm_num) (by omega)
      _ < 10 ^ (401 : Int) := two_pow_lt_ten_pow
  exact lt_irrefl _ hloop

/-- A numeral in the interval of a number is read as that number. -/
theorem toFloat_of_holds {x : Binary} (h : x.Encodes bits) (hfinite : bits < infinityBits)
    (hholds : x.Holds n.value) :
    n.toFloat = if n.negative then -Float.ofBits bits.toUInt64 else Float.ofBits bits.toUInt64 := by
  have hvalue : 0 < n.value := (Binary.low_pos h.pos).trans_le hholds.bounds.1
  have hdigits : digitsValue (n.whole ++ n.fraction) ≠ 0 := by
    intro hzero
    rw [value, hzero, Nat.cast_zero, zero_mul] at hvalue
    exact lt_irrefl _ hvalue
  have htiny := not_tiny h hholds
  have hhuge := not_huge h hfinite hholds
  rw [value] at hholds
  rw [toFloat]
  generalize n.writtenExponent - n.fraction.length = exponent at *
  generalize digitsValue (n.whole ++ n.fraction) = digits at *
  have hratio : ((digits * Nat.pow 10 exponent.toNat : Nat) : ℚ)
      / ((Nat.pow 10 (-exponent).toNat : Nat) : ℚ) = digits * 10 ^ exponent := by
    have hpow := pow_toNat (show (10 : ℚ) ≠ 0 by norm_num) exponent
    rw [Nat.pow_eq, Nat.pow_eq]
    push_cast
    rw [hpow, ← mul_assoc, mul_div_assoc, div_self (by positivity), mul_one]
  have hnearest : nearest (digits * Nat.pow 10 exponent.toNat) (Nat.pow 10 (-exponent).toNat)
      = Float.ofBits bits.toUInt64 := by
    have hpos : 0 < Nat.pow 10 (-exponent).toNat := Nat.pow_pos (by norm_num)
    rw [← hratio] at hholds
    rw [nearest, nearestBits_of_holds h hfinite hpos hholds]
  rw [if_neg (not_or.mpr ⟨hdigits, htiny⟩), if_neg hhuge, hnearest]

lemma zero_wellFormed (negative : Bool) :
    (⟨negative, ['0'], ['0'], none⟩ : Numeral).WellFormed where
  whole_digits := List.forall_mem_singleton.mpr rfl
  whole_ne_nil := List.cons_ne_nil _ _
  whole_zero _ := rfl
  fraction_digits := List.forall_mem_singleton.mpr rfl
  exponent_digits e he := by cases he

/-- A numeral that stands for zero is read as zero. -/
lemma toFloat_of_value_eq_zero (h : n.value = 0) : n.toFloat
    = if n.negative then -Float.ofBits (0 : Nat).toUInt64 else Float.ofBits (0 : Nat).toUInt64 := by
  have hdigits : digitsValue (n.whole ++ n.fraction) = 0 := by
    rw [value] at h
    rcases mul_eq_zero.mp h with hzero | hpow
    · exact_mod_cast hzero
    · exact absurd hpow (zpow_ne_zero _ (by norm_num))
  rw [toFloat, hdigits]
  rfl

end Numeral

namespace Layout

/-- The numeral that a format writes for a magnitude in bits. -/
def floatNumeral (layout : Layout) (negative : Bool) (bits : Nat) : Numeral :=
  if bits = 0 then ⟨negative, ['0'], ['0'], none⟩
  else
    let decimal := (Binary.ofBits 52 (-1074) bits).shortest layout.tie
    layout.numeral negative (digitsOf decimal.digits)
      (decimal.exponent + (digitsOf decimal.digits).length - 1)

variable (layout : Layout) (negative : Bool) {bits : Nat}

lemma floatNumeral_text : (layout.floatNumeral negative bits).text layout.plusSign
    = layout.signed negative (Binary.ofBits 52 (-1074) bits) := by
  rw [floatNumeral, signed]
  split
  · next hzero =>
      have hm : (Binary.ofBits 52 (-1074) bits).m = 0 := by
        rw [hzero]
        rfl
      rw [if_pos hm]
      simp [Numeral.text, Numeral.exponentText]
  · next hbits =>
      have hpos := (encodes_ofBits (Nat.pos_of_ne_zero hbits)).pos
      rw [if_neg hpos.ne', magnitude]
      generalize (Binary.ofBits 52 (-1074) bits).shortest layout.tie = decimal
      exact layout.numeral_text negative _ (digitsOf_ne_nil decimal.digits)

lemma floatNumeral_wellFormed : (layout.floatNumeral negative bits).WellFormed := by
  rw [floatNumeral]
  split
  · exact Numeral.zero_wellFormed negative
  · next hbits =>
      have hpos := (encodes_ofBits (Nat.pos_of_ne_zero hbits)).pos
      have hdigits := Binary.shortest_digits_pos hpos layout.tie
      generalize (Binary.ofBits 52 (-1074) bits).shortest layout.tie = decimal at hdigits ⊢
      exact layout.numeral_wellFormed negative _ (digitsOf_ne_nil _)
        (fun c hc => isDigit_of_mem_digitsOf hc) (head_digitsOf_ne_zero hdigits)

lemma floatNumeral_isReal : (layout.floatNumeral negative bits).IsReal := by
  rw [floatNumeral]
  split
  · exact .inl (List.cons_ne_nil _ _)
  · exact layout.numeral_isReal negative _ (digitsOf_ne_nil _)

lemma floatNumeral_toFloat (hfinite : bits < infinityBits) :
    (layout.floatNumeral negative bits).toFloat
      = if negative then -Float.ofBits bits.toUInt64 else Float.ofBits bits.toUInt64 := by
  rw [floatNumeral]
  split
  · next hzero =>
      have hvalue : (⟨negative, ['0'], ['0'], none⟩ : Numeral).value = 0 := by
        rw [Numeral.value_none]
        exact zero_mul _
      rw [hzero]
      exact Numeral.toFloat_of_value_eq_zero hvalue
  · next hbits =>
      have hencodes := encodes_ofBits (Nat.pos_of_ne_zero hbits)
      have hholds := Binary.shortest_holds hencodes.pos layout.tie
      generalize (Binary.ofBits 52 (-1074) bits).shortest layout.tie = decimal at hholds ⊢
      have hvalue : (layout.numeral negative (digitsOf decimal.digits)
          (decimal.exponent + (digitsOf decimal.digits).length - 1)).value = decimal.value := by
        rw [layout.numeral_value negative _ (digitsOf_ne_nil _), digitsValue_digitsOf, Scaled.value]
        congr 2
        omega
      rw [← hvalue] at hholds
      dsimp only
      rw [Numeral.toFloat_of_holds hencodes hfinite hholds, numeral_negative]

variable {layout}

/-- **What a format writes is read back.** The text of a finite number is that of a numeral that is
no integer, and the number nearest to it is the one that was written. -/
theorem read_float (hplus : layout.plusSign = [] ∨ layout.plusSign = ['+']) {x : Float}
    (hnan : x.isNaN = false) (hinf : x.isInf = false) :
    ∃ n, Numeral.read (layout.float x) = some (n, []) ∧ n.IsReal ∧ n.toFloat = x := by
  have htext : layout.float x
      = (layout.floatNumeral (x.toBits.toNat ≥ Binary.signBit64) (magnitudeBits x)).text
        layout.plusSign := by
    rw [floatNumeral_text, float, if_neg (ne_true_of_eq_false hnan),
      if_neg (ne_true_of_eq_false hinf)]
    rfl
  generalize hnegative : decide (x.toBits.toNat ≥ Binary.signBit64) = negative at htext
  refine ⟨layout.floatNumeral negative (magnitudeBits x), ?_, floatNumeral_isReal layout negative,
    ?_⟩
  · rw [htext]
    exact Numeral.read_text hplus (floatNumeral_wellFormed layout negative)
  · rw [floatNumeral_toFloat layout negative (magnitudeBits_lt hnan hinf), ← hnegative]
    have hsame := withSign_magnitude hnan
    simpa using hsame

end Layout

/-! ### Infinity -/

/-- Infinity of either sign. -/
def infinite (negative : Bool) : Float :=
  if negative then -Float.ofBits infinityBits.toUInt64 else Float.ofBits infinityBits.toUInt64

/-- Infinity is written as its word behind its sign. -/
theorem Layout.float_of_isInf {layout : Layout} {x : Float} (hnan : x.isNaN = false)
    (hinf : x.isInf = true) :
    ∃ negative, layout.float x = (if negative then ['-'] else []) ++ layout.infinity
      ∧ infinite negative = x := by
  have hbits : magnitudeBits x = infinityBits := (magnitudeBits_eq_iff x).mpr hinf
  have hsame := withSign_magnitude hnan
  rw [hbits] at hsame
  refine ⟨decide (x.toBits.toNat ≥ Binary.signBit64), ?_, ?_⟩
  · rw [Layout.float, if_neg (ne_true_of_eq_false hnan), if_pos hinf]
    simp
  · simpa [infinite] using hsame

end AskSql.Decimal
