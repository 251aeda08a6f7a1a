import AskSql.Proofs.Decimal.RoundTrip
import AskSql.Proofs.Decimal.Shortness

/-!
Scientific notation.

A number in scientific notation is a sign, digits with a point behind the first of them, and the
exponent of that digit. If the digits do not end in a zero that could be left out, there is only one
notation of a number. That of a floating-point number has the digits of the shortest decimal that
stands for it, so it is of this kind, and the number is read back from it.

* `Denotes`: the number that a text denotes.
* `Scientific`, `Scientific.text`, `Scientific.value`: a number in scientific notation.
* `Scientific.textIn`, `Scientific.denotes_textIn`: what a format makes of the notation, and that it
  denotes the same number.
* `Scientific.Normal`, `Scientific.eq_of_value`: the one notation of a number.
* `Scientific.ofFloat`: the notation of a floating-point number.
* `Scientific.ofFloat_normal`, `Scientific.read_ofFloat`: it is of this kind and read back.
-/

namespace AskSql.Decimal

/-! ### Numbers that texts denote -/

/-- The text is that of a numeral with this sign and this magnitude. -/
def Denotes (text : List Char) (negative : Bool) (value : ℚ) : Prop :=
  ∃ n, Numeral.read text = some (n, []) ∧ n.negative = negative ∧ n.value = value

/-- A text denotes one number at most. -/
lemma Denotes.unique {text : List Char} {negative negative' : Bool} {value value' : ℚ}
    (h : Denotes text negative value) (h' : Denotes text negative' value') :
    negative = negative' ∧ value = value' := by
  obtain ⟨n, hread, rfl, rfl⟩ := h
  obtain ⟨n', hread', rfl, rfl⟩ := h'
  rw [hread] at hread'
  cases hread'
  exact ⟨rfl, rfl⟩

/-! ### The notation -/

/-- A number in scientific notation; `exponent` is that of the leading digit. -/
structure Scientific where
  negative : Bool
  digits : Nat
  exponent : Int
deriving DecidableEq, Repr

namespace Scientific

/-- The sign. -/
def sign (s : Scientific) : List Char := if s.negative then ['-'] else []

/-- The digits with a point behind the first one, if there are more. -/
def mantissa (s : Scientific) : List Char := Layout.mantissa (digitsOf s.digits)

/-- The notation as a text. The exponent has neither a plus sign nor superfluous zeros. -/
def text (s : Scientific) : List Char :=
  s.sign ++ s.mantissa ++ 'e' :: Json.writeInteger s.exponent

/-- What a format makes of the notation. -/
def textIn (s : Scientific) (layout : Layout) : List Char :=
  s.sign ++ layout.form (digitsOf s.digits) s.exponent

/-- The magnitude of the number. -/
def value (s : Scientific) : ℚ := s.digits * 10 ^ (s.exponent + 1 - (digitsOf s.digits).length)

/-- The digits do not end in a zero, zero has the exponent zero, and an exponent has 32 bits. -/
structure Normal (s : Scientific) : Prop where
  zero : s.digits = 0 → s.exponent = 0
  last : s.digits ≠ 0 → s.digits % 10 ≠ 0
  bounded : s.exponent.natAbs < 2 ^ 31

/-! ### The number that it denotes -/

/-- The numeral that a format makes of the notation. -/
def numeral (s : Scientific) (layout : Layout) : Numeral :=
  layout.numeral s.negative (digitsOf s.digits) s.exponent

/-- It is well formed even for zero, whose only digit is a zero. -/
lemma numeral_wellFormed {s : Scientific} (hzero : s.digits = 0 → s.exponent = 0)
    (layout : Layout) : (s.numeral layout).WellFormed := by
  have hdigits : ∀ c ∈ digitsOf s.digits, c.isDigit = true := fun c hc =>
    isDigit_of_mem_digitsOf hc
  rcases Nat.eq_zero_or_pos s.digits with hnone | hpos
  · rw [numeral, Layout.numeral]
    split
    · rw [hnone, hzero hnone]
      exact Numeral.zero_wellFormed s.negative
    · exact layout.scientificNumeral_wellFormed s.negative _ (digitsOf_ne_nil _) hdigits
  · exact layout.numeral_wellFormed s.negative _ (digitsOf_ne_nil _) hdigits
      (head_digitsOf_ne_zero hpos)

lemma numeral_text (s : Scientific) (layout : Layout) :
    (s.numeral layout).text layout.plusSign = s.textIn layout :=
  layout.numeral_text s.negative s.exponent (digitsOf_ne_nil s.digits)

/-- What a format makes of the notation is read as its numeral. -/
lemma read_textIn {s : Scientific} (hzero : s.digits = 0 → s.exponent = 0) {layout : Layout}
    (hplus : layout.plusSign = [] ∨ layout.plusSign = ['+']) :
    Numeral.read (s.textIn layout) = some (s.numeral layout, []) := by
  rw [← numeral_text]
  exact Numeral.read_text hplus (numeral_wellFormed hzero layout)

/-- **No format changes the number** that is denoted. -/
theorem denotes_textIn {s : Scientific} (hzero : s.digits = 0 → s.exponent = 0) {layout : Layout}
    (hplus : layout.plusSign = [] ∨ layout.plusSign = ['+']) :
    Denotes (s.textIn layout) s.negative s.value := by
  refine ⟨_, read_textIn hzero hplus, layout.numeral_negative _ _ _, ?_⟩
  rw [numeral, layout.numeral_value _ _ (digitsOf_ne_nil _), digitsValue_digitsOf, value]

/-- The format that always splits the exponent off and writes it without a plus sign. -/
def plain : Layout where
  positionalFrom := 0
  positionalBelow := 0
  plusSign := []
  exponentWidth := 1
  tie := .up
  notANumber := []
  infinity := []

lemma text_eq_textIn (s : Scientific) : s.text = s.textIn plain := by
  have hnot : ¬ (plain.positionalFrom ≤ s.exponent ∧ s.exponent < plain.positionalBelow) :=
    fun ⟨hfrom, hbelow⟩ => absurd (hfrom.trans_lt hbelow) (by decide)
  have hwidth : plain.exponentWidth - (digitsOf s.exponent.natAbs).length = 0 :=
    Nat.sub_eq_zero_of_le (List.length_pos_iff.mpr (digitsOf_ne_nil _))
  rw [textIn, Layout.form, if_neg hnot, Layout.scientific, Layout.exponentDigits, hwidth, text,
    mantissa, Numeral.writeInteger_eq]
  simp [plain]

/-- A notation denotes its number. -/
lemma denotes_text {s : Scientific} (hzero : s.digits = 0 → s.exponent = 0) :
    Denotes s.text s.negative s.value := by
  rw [text_eq_textIn]
  exact denotes_textIn hzero (.inl rfl)

/-! ### The one notation of a number -/

/-- No decimal of the same value has a coarser unit than one whose digits do not end in a zero. -/
lemma unit_le_of_value_eq {a b : Nat} {g h : Int} (ha : a % 10 ≠ 0)
    (hvalue : (a : ℚ) * 10 ^ g = b * 10 ^ h) : h ≤ g := by
  by_contra hlt
  have hpow : (10 : ℚ) ^ h = 10 ^ (h - g - 1).toNat * 10 * 10 ^ g := by
    rw [← zpow_natCast, ← zpow_add_one₀ (by norm_num), ← zpow_add₀ (by norm_num)]
    congr 1
    omega
  have hmultiple : (a : ℚ) = b * 10 ^ (h - g - 1).toNat * 10 := by
    rw [hpow] at hvalue
    refine mul_right_cancel₀ (zpow_ne_zero g (show (10 : ℚ) ≠ 0 by norm_num)) ?_
    rw [hvalue]
    ring
  have hnat : a = b * 10 ^ (h - g - 1).toNat * 10 := by exact_mod_cast hmultiple
  omega

lemma digits_eq_zero_iff (s : Scientific) : s.digits = 0 ↔ s.value = 0 := by
  rw [value, mul_eq_zero, Nat.cast_eq_zero]
  have hpow : (10 : ℚ) ^ (s.exponent + 1 - (digitsOf s.digits).length) ≠ 0 :=
    zpow_ne_zero _ (by norm_num)
  exact (or_iff_left hpow).symm

/-- **A number has one notation.** -/
theorem eq_of_value {s t : Scientific} (hs : s.Normal) (ht : t.Normal)
    (hnegative : s.negative = t.negative) (hvalue : s.value = t.value) : s = t := by
  have hiff : s.digits = 0 ↔ t.digits = 0 := by
    rw [digits_eq_zero_iff, digits_eq_zero_iff, hvalue]
  have hboth : s.digits = t.digits ∧ s.exponent = t.exponent := by
    by_cases hzero : s.digits = 0
    · have htzero := hiff.mp hzero
      exact ⟨hzero.trans htzero.symm, (hs.zero hzero).trans (ht.zero htzero).symm⟩
    · -- no unit is coarser than the other, so they are the same
      have hunit : t.exponent + 1 - (digitsOf t.digits).length
          = s.exponent + 1 - (digitsOf s.digits).length :=
        le_antisymm (unit_le_of_value_eq (hs.last hzero) hvalue)
          (unit_le_of_value_eq (ht.last (mt hiff.mpr hzero)) hvalue.symm)
      have hdigits : s.digits = t.digits := by
        rw [value, value, hunit] at hvalue
        have hcast := mul_right_cancel₀ (zpow_ne_zero _ (show (10 : ℚ) ≠ 0 by norm_num)) hvalue
        exact_mod_cast hcast
      refine ⟨hdigits, ?_⟩
      rw [hdigits] at hunit
      omega
  obtain ⟨hdigits, hexponent⟩ := hboth
  cases s
  cases t
  cases hnegative
  cases hdigits
  cases hexponent
  rfl

/-! ### The leading digit -/

lemma lt_ten_pow_digitsOf (n : Nat) : n < 10 ^ (digitsOf n).length :=
  (Nat.length_toDigits_le_iff (by norm_num) Nat.length_toDigits_pos).mp le_rfl

lemma ten_pow_le_of_digitsOf {n : Nat} (hn : 0 < n) : 10 ^ ((digitsOf n).length - 1) ≤ n := by
  rcases Nat.eq_zero_or_pos ((digitsOf n).length - 1) with hone | hmore
  · rw [hone]
    exact hn
  · by_contra hlt
    have hle : (digitsOf n).length ≤ (digitsOf n).length - 1 :=
      (Nat.length_toDigits_le_iff (by norm_num) hmore).mpr (not_le.mp hlt)
    omega

/-- A number is at least the power of ten of its leading digit, unless it is zero. -/
lemma ten_zpow_le_value {s : Scientific} (hdigits : 0 < s.digits) : 10 ^ s.exponent ≤ s.value := by
  have hlength : 0 < (digitsOf s.digits).length := Nat.length_toDigits_pos
  have hle : (10 : ℚ) ^ ((digitsOf s.digits).length - 1) ≤ s.digits := by
    exact_mod_cast ten_pow_le_of_digitsOf hdigits
  calc (10 : ℚ) ^ s.exponent
      = 10 ^ ((digitsOf s.digits).length - 1)
          * 10 ^ (s.exponent + 1 - (digitsOf s.digits).length) := by
        rw [← zpow_natCast, ← zpow_add₀ (by norm_num)]
        congr 1
        omega
    _ ≤ s.value := mul_le_mul_of_nonneg_right hle (by positivity)

/-- It is below the next power of ten. -/
lemma value_lt_ten_zpow (s : Scientific) : s.value < 10 ^ (s.exponent + 1) := by
  have hlt : (s.digits : ℚ) < 10 ^ (digitsOf s.digits).length := by
    exact_mod_cast lt_ten_pow_digitsOf s.digits
  calc s.value
      < 10 ^ (digitsOf s.digits).length * 10 ^ (s.exponent + 1 - (digitsOf s.digits).length) :=
        mul_lt_mul_of_pos_right hlt (by positivity)
    _ = 10 ^ (s.exponent + 1) := by
        rw [← zpow_natCast, ← zpow_add₀ (by norm_num)]
        congr 1
        omega

/-- The exponent of what rounds to a finite number has far less than 32 bits. -/
lemma bounded_of_holds {s : Scientific} (hdigits : 0 < s.digits) {x : Binary} {bits : Nat}
    (h : x.Encodes bits) (hfinite : bits < infinityBits) (hs : x.Holds s.value) :
    s.exponent.natAbs < 2 ^ 31 := by
  have hq := h.q_le hfinite
  have hbelow : (10 : ℚ) ^ s.exponent < 10 ^ (401 : Int) :=
    calc (10 : ℚ) ^ s.exponent ≤ s.value := ten_zpow_le_value hdigits
      _ < 2 ^ (53 + x.q) := h.lt_of_holds hs
      _ ≤ 2 ^ (1203 : Int) := zpow_le_zpow_right₀ (by norm_num) (by omega)
      _ < 10 ^ (401 : Int) := Numeral.two_pow_lt_ten_pow
  have habove : (10 : ℚ) ^ (-401 : Int) < 10 ^ (s.exponent + 1) :=
    calc (10 : ℚ) ^ (-401 : Int) < 2 ^ (-1203 : Int) := Numeral.ten_zpow_lt_two_zpow
      _ ≤ 2 ^ (-1075 : Int) := zpow_le_zpow_right₀ (by norm_num) (by norm_num)
      _ ≤ s.value := h.le_of_holds hs
      _ < 10 ^ (s.exponent + 1) := value_lt_ten_zpow s
  have hgreatest := (zpow_lt_zpow_iff_right₀ (show (1 : ℚ) < 10 by norm_num)).mp hbelow
  have hleast := (zpow_lt_zpow_iff_right₀ (show (1 : ℚ) < 10 by norm_num)).mp habove
  omega

/-! ### Floating-point numbers -/

/-- The notation of a decimal. -/
def ofDecimal (negative : Bool) (decimal : Scaled) : Scientific :=
  ⟨negative, decimal.digits, decimal.exponent + (digitsOf decimal.digits).length - 1⟩

lemma ofDecimal_value (negative : Bool) (decimal : Scaled) :
    (ofDecimal negative decimal).value = decimal.value := by
  rw [value, ofDecimal, Scaled.value]
  dsimp only
  congr 2
  omega

/-- The notation of a finite number. -/
def ofFloat (tie : Tie) (x : Float) : Scientific :=
  let negative := decide (x.toBits.toNat ≥ Binary.signBit64)
  let magnitude := Binary.ofFloat x
  if magnitude.m = 0 then ⟨negative, 0, 0⟩ else ofDecimal negative (magnitude.shortest tie)

lemma ofFloat_negative (tie : Tie) (x : Float) :
    (ofFloat tie x).negative = decide (x.toBits.toNat ≥ Binary.signBit64) := by
  rw [ofFloat]
  split
  · rfl
  · rfl

/-- What a format writes of a finite number is what it makes of the notation, if it is a format that
writes zero in positional form. -/
lemma float_eq_textIn {layout : Layout} (hfrom : layout.positionalFrom ≤ 0)
    (hbelow : 0 < layout.positionalBelow) {x : Float} (hnan : x.isNaN = false)
    (hinf : x.isInf = false) : layout.float x = (ofFloat layout.tie x).textIn layout := by
  rw [Layout.float, if_neg (ne_true_of_eq_false hnan), if_neg (ne_true_of_eq_false hinf),
    Layout.signed, textIn, ofFloat]
  by_cases hzero : (Binary.ofFloat x).m = 0
  · have hform : layout.form (digitsOf 0) 0 = ['0', '.', '0'] := if_pos ⟨hfrom, hbelow⟩
    rw [if_pos hzero, if_pos hzero, hform]
    rfl
  · rw [if_neg hzero, if_neg hzero]
    rfl

section Finite

variable (tie : Tie) {x : Float}

lemma ofFloat_of_zero (hzero : magnitudeBits x = 0) :
    ofFloat tie x = ⟨decide (x.toBits.toNat ≥ Binary.signBit64), 0, 0⟩ := by
  have hm : (Binary.ofFloat x).m = 0 :=
    congrArg (fun bits => (Binary.ofBits 52 (-1074) bits).m) hzero
  rw [ofFloat, if_pos hm]

lemma ofFloat_of_pos (hpos : 0 < magnitudeBits x) :
    ofFloat tie x = ofDecimal (decide (x.toBits.toNat ≥ Binary.signBit64))
      ((Binary.ofBits 52 (-1074) (magnitudeBits x)).shortest tie) := by
  have hm : (Binary.ofFloat x).m ≠ 0 := (encodes_ofBits hpos).pos.ne'
  rw [ofFloat, if_neg hm]
  rfl

/-- Its magnitude rounds to the number, unless this is zero. -/
lemma ofFloat_holds (hpos : 0 < magnitudeBits x) :
    (Binary.ofBits 52 (-1074) (magnitudeBits x)).Holds (ofFloat tie x).value := by
  rw [ofFloat_of_pos tie hpos, ofDecimal_value]
  exact Binary.shortest_holds (encodes_ofBits hpos).pos tie

variable (hnan : x.isNaN = false) (hinf : x.isInf = false)

include hnan hinf

/-- **The notation of a finite number** has no digit that could be left out. -/
theorem ofFloat_normal : (ofFloat tie x).Normal := by
  have hfinite := magnitudeBits_lt hnan hinf
  rcases Nat.eq_zero_or_pos (magnitudeBits x) with hzero | hpos
  · rw [ofFloat_of_zero tie hzero]
    exact ⟨fun _ => rfl, fun hdigits => absurd rfl hdigits, Nat.two_pow_pos 31⟩
  · have hencodes := encodes_ofBits hpos
    have hholds := ofFloat_holds tie hpos
    have hdigits := Binary.shortest_digits_pos hencodes.pos tie
    rw [ofFloat_of_pos tie hpos] at hholds ⊢
    exact {
      zero := fun hzero => absurd hzero hdigits.ne'
      last := fun _ => Binary.shortest_digits_mod_ten hencodes hfinite tie
      bounded := bounded_of_holds hdigits hencodes hfinite hholds }

/-- **It is read as the number.** -/
theorem read_ofFloat : ∃ n, Numeral.read (ofFloat tie x).text = some (n, []) ∧ n.toFloat = x := by
  obtain ⟨n, hread, hnegative, hvalue⟩ := denotes_text (ofFloat_normal tie hnan hinf).zero
  have hfloat : n.toFloat = if n.negative then -Float.ofBits (magnitudeBits x).toUInt64
      else Float.ofBits (magnitudeBits x).toUInt64 := by
    rcases Nat.eq_zero_or_pos (magnitudeBits x) with hzero | hpos
    · rw [hzero]
      refine Numeral.toFloat_of_value_eq_zero (hvalue.trans ?_)
      rw [← digits_eq_zero_iff, ofFloat_of_zero tie hzero]
    · have hholds := ofFloat_holds tie hpos
      rw [← hvalue] at hholds
      exact Numeral.toFloat_of_holds (encodes_ofBits hpos) (magnitudeBits_lt hnan hinf) hholds
  refine ⟨n, hread, ?_⟩
  rw [hfloat, hnegative, ofFloat_negative]
  simpa using withSign_magnitude hnan

end Finite

end Scientific

end AskSql.Decimal
