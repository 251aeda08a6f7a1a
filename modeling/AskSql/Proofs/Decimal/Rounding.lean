import AskSql.Decimal.Nearest
import AskSql.Proofs.Decimal.Interval
import Mathlib.Data.Int.Log
import Mathlib.Data.Rat.Floor

/-!
What a fraction in the interval of a number rounds to.

Rounding picks the exponent of the number by the size of the fraction, which is that of the number
unless the fraction lies below a power of two that it rounds up to. In the one case the fraction is
rounded to `m` itself, in the other to the carry that leads to the same bits.

* `roundedQuotient_eq`: a quotient close enough to an integer is rounded to it.
* `binaryExponent_eq`: the exponent by the logarithm of the fraction.
* `Binary.Encodes`: a binary number and the bits that stand for it.
* `nearestBits_of_holds`: a fraction in the interval of a number rounds to its bits.
-/

namespace AskSql.Decimal

variable {a b : Nat}

/-! ### Rounding to an integer -/

/-- A quotient at most one half away from an integer is rounded to it, if it is less than that away
or the integer is even. -/
lemma roundedQuotient_eq {n : Nat} (hb : 0 < b) (hlow : 2 * n * b ≤ 2 * a + b)
    (hhigh : 2 * a ≤ 2 * n * b + b)
    (hodd : n % 2 = 1 → 2 * n * b < 2 * a + b ∧ 2 * a < 2 * n * b + b) :
    roundedQuotient a b = n := by
  have ha := Nat.div_add_mod a b
  have hrest := Nat.mod_lt a hb
  rw [roundedQuotient]
  generalize a / b = k at ha ⊢
  generalize a % b = r at ha hrest ⊢
  -- the quotient and the integer are at most one apart
  have hn : n = k ∨ n = k + 1 := by
    have habove : n ≤ k + 1 := by
      by_contra hlt
      have hprod : (k + 2) * b ≤ n * b := Nat.mul_le_mul_right b (by omega)
      nlinarith
    have hbelow : k ≤ n := by
      by_contra hlt
      have hprod : (n + 1) * b ≤ k * b := Nat.mul_le_mul_right b (by omega)
      nlinarith
    omega
  have hdouble : 2 * k * b = 2 * (b * k) := by ring
  rcases hn with rfl | rfl
  · rw [hdouble] at hhigh hodd
    split_ifs <;> omega
  · have hnext : 2 * (k + 1) * b = 2 * (b * k) + 2 * b := by ring
    rw [hnext] at hlow hodd
    split_ifs <;> omega

/-- The same for a fraction that is divided by a power of two. -/
lemma roundedQuotient_scaled {n : Nat} {q : Int} (hb : 0 < b)
    (hlow : (n - 1 / 2) * 2 ^ q ≤ (a / b : ℚ)) (hhigh : (a / b : ℚ) ≤ (n + 1 / 2) * 2 ^ q)
    (hodd : n % 2 = 1 → (n - 1 / 2) * 2 ^ q < (a / b : ℚ) ∧ (a / b : ℚ) < (n + 1 / 2) * 2 ^ q) :
    roundedQuotient (a * Nat.pow 2 (-q).toNat) (b * Nat.pow 2 q.toNat) = n := by
  have hpos : (0 : ℚ) < b := by exact_mod_cast hb
  have hpow : (0 : ℚ) < 2 ^ (-q).toNat := by positivity
  have hscale : (2 : ℚ) ^ q.toNat = 2 ^ q * 2 ^ (-q).toNat := pow_toNat two_ne_zero q
  rw [le_div_iff₀ hpos] at hlow
  rw [div_le_iff₀ hpos] at hhigh
  rw [lt_div_iff₀ hpos, div_lt_iff₀ hpos] at hodd
  have hle := mul_le_mul_of_nonneg_right hlow hpow.le
  have hge := mul_le_mul_of_nonneg_right hhigh hpow.le
  rw [Nat.pow_eq, Nat.pow_eq]
  refine roundedQuotient_eq (by positivity) ?_ ?_ fun hn => ?_
  · rw [← Nat.cast_le (α := ℚ)]
    push_cast
    rw [hscale]
    linarith
  · rw [← Nat.cast_le (α := ℚ)]
    push_cast
    rw [hscale]
    linarith
  · have hlt := mul_lt_mul_of_pos_right (hodd hn).1 hpow
    have hgt := mul_lt_mul_of_pos_right (hodd hn).2 hpow
    rw [← Nat.cast_lt (α := ℚ), ← Nat.cast_lt (α := ℚ)]
    push_cast
    rw [hscale]
    constructor <;> linarith

/-! ### The exponent -/

lemma two_zpow_le_iff {v : ℚ} (hv : 0 < v) (e : Int) : 2 ^ e ≤ v ↔ e ≤ Int.log 2 v := by
  rw [← Int.zpow_le_iff_le_log one_lt_two hv, Nat.cast_two]

lemma lt_two_zpow_iff {v : ℚ} (hv : 0 < v) (e : Int) : v < 2 ^ e ↔ Int.log 2 v < e := by
  rw [← Int.lt_zpow_iff_log_lt one_lt_two hv, Nat.cast_two]

lemma two_zpow_add (n : Nat) (q : Int) : (2 : ℚ) ^ (n + q) = 2 ^ n * 2 ^ q := by
  rw [zpow_add₀ two_ne_zero, zpow_natCast]

lemma reaches_iff (hb : 0 < b) (n : Nat) (q : Int) :
    reaches a b n q = true ↔ (2 : ℚ) ^ (n + q) ≤ a / b := by
  have hpos : (0 : ℚ) < b := by exact_mod_cast hb
  have hpow : (0 : ℚ) < 2 ^ (-q).toNat := by positivity
  have hscale : (2 : ℚ) ^ q.toNat = 2 ^ q * 2 ^ (-q).toNat := pow_toNat two_ne_zero q
  rw [reaches, decide_eq_true_eq, Nat.pow_eq, Nat.pow_eq, le_div_iff₀ hpos, ← Nat.cast_le (α := ℚ),
    two_zpow_add]
  push_cast
  rw [pow_add, hscale]
  constructor
  · intro h
    exact le_of_mul_le_mul_right (by linarith) hpow
  · intro h
    have hscaled := mul_le_mul_of_nonneg_right h hpow.le
    linarith

/-- The lengths of numerator and denominator leave two exponents for a fraction. -/
lemma log2_sub_bounds (ha : 0 < a) (hb : 0 < b) :
    (2 : ℚ) ^ ((a.log2 : Int) - b.log2 - 1) ≤ a / b
      ∧ (a / b : ℚ) < 2 ^ ((a.log2 : Int) - b.log2 + 1) := by
  have hbpos : (0 : ℚ) < b := by exact_mod_cast hb
  have hAlow : (2 : ℚ) ^ a.log2 ≤ a := by exact_mod_cast Nat.log2_self_le ha.ne'
  have hAhigh : (a : ℚ) < 2 ^ (a.log2 + 1) := by exact_mod_cast Nat.lt_log2_self
  have hBlow : (2 : ℚ) ^ b.log2 ≤ b := by exact_mod_cast Nat.log2_self_le hb.ne'
  have hBhigh : (b : ℚ) < 2 ^ (b.log2 + 1) := by exact_mod_cast Nat.lt_log2_self
  rw [le_div_iff₀ hbpos, div_lt_iff₀ hbpos]
  constructor
  · calc (2 : ℚ) ^ ((a.log2 : Int) - b.log2 - 1) * b
        ≤ 2 ^ ((a.log2 : Int) - b.log2 - 1) * 2 ^ (b.log2 + 1) := by gcongr
      _ = 2 ^ a.log2 := by
          rw [← zpow_natCast, ← zpow_natCast, ← zpow_add₀ two_ne_zero]
          congr 1
          push_cast
          ring
      _ ≤ a := hAlow
  · calc (a : ℚ) < 2 ^ (a.log2 + 1) := hAhigh
      _ = 2 ^ ((a.log2 : Int) - b.log2 + 1) * 2 ^ b.log2 := by
          rw [← zpow_natCast, ← zpow_natCast, ← zpow_add₀ two_ne_zero]
          congr 1
          push_cast
          ring
      _ ≤ 2 ^ ((a.log2 : Int) - b.log2 + 1) * b := by gcongr

/-- The exponent is that of the leading bit, less the other bits of a significand. -/
lemma binaryExponent_eq (ha : 0 < a) (hb : 0 < b) :
    binaryExponent a b = max (-1074) (Int.log 2 (a / b : ℚ) - 52) := by
  have hapos : (0 : ℚ) < a := by exact_mod_cast ha
  have hbpos : (0 : ℚ) < b := by exact_mod_cast hb
  have hpos : (0 : ℚ) < a / b := div_pos hapos hbpos
  obtain ⟨hlow, hhigh⟩ := log2_sub_bounds ha hb
  rw [two_zpow_le_iff hpos] at hlow
  rw [lt_two_zpow_iff hpos] at hhigh
  have hreaches := reaches_iff (a := a) hb 53 ((a.log2 : Int) - b.log2 - 53)
  rw [two_zpow_le_iff hpos] at hreaches
  rw [binaryExponent]
  split
  · next h =>
      have hlog := hreaches.mp h
      congr 1
      omega
  · next h =>
      have hlog := mt hreaches.mpr h
      congr 1
      omega

/-! ### Binary numbers and their bits -/

/-- The bits stand for the binary number. -/
structure Binary.Encodes (x : Binary) (bits : Nat) : Prop where
  pos : 0 < x.m
  least : -1074 ≤ x.q
  below : x.m < 2 ^ 53
  full : x.q = -1074 ∨ 2 ^ 52 ≤ x.m
  narrow_iff : x.narrowBelow = true ↔ x.m = 2 ^ 52 ∧ -1074 < x.q
  bits_eq : bits = (x.q + 1074).toNat * 2 ^ 52 + x.m

/-- Bits other than zero stand for the number that they are decoded to. -/
lemma encodes_ofBits {bits : Nat} (h : 0 < bits) :
    (Binary.ofBits 52 (-1074) bits).Encodes bits := by
  have hsplit := Nat.div_add_mod bits (2 ^ 52)
  have hfraction : bits % 2 ^ 52 < 2 ^ 52 := Nat.mod_lt _ (by norm_num)
  rw [Binary.ofBits]
  simp only [Nat.pow_eq]
  generalize bits / 2 ^ 52 = field at hsplit ⊢
  generalize bits % 2 ^ 52 = fraction at hsplit hfraction ⊢
  split
  · next hfield =>
      constructor <;> dsimp only <;> grind
  · next hfield =>
      constructor <;> dsimp only <;> grind

/-! ### The nearest number -/

namespace Binary.Encodes

variable {x : Binary} {bits : Nat} {v : ℚ}

/-- A rational in the interval is at most half a unit away from the number, and less than that if
`m` is odd. -/
lemma near (hv : x.Holds v) :
    (x.m - 1 / 2) * 2 ^ x.q ≤ v ∧ v ≤ (x.m + 1 / 2) * 2 ^ x.q
      ∧ (x.m % 2 = 1 → (x.m - 1 / 2) * 2 ^ x.q < v ∧ v < (x.m + 1 / 2) * 2 ^ x.q) := by
  have hlow : ((x.m : ℚ) - 1 / 2) * 2 ^ x.q ≤ x.low := by
    rw [low]
    refine mul_le_mul_of_nonneg_right ?_ (by positivity)
    split <;> linarith
  refine ⟨hlow.trans hv.bounds.1, hv.bounds.2, fun hodd => ?_⟩
  rw [Holds, if_neg (by omega)] at hv
  exact ⟨hlow.trans_lt hv.1, hv.2⟩

/-- So it is below the next power of two. -/
lemma lt_of_holds (h : x.Encodes bits) (hv : x.Holds v) : v < 2 ^ (53 + x.q) := by
  have hm : (x.m : ℚ) + 1 ≤ 2 ^ 53 := by exact_mod_cast h.below
  calc v ≤ (x.m + 1 / 2) * 2 ^ x.q := (near hv).2.1
    _ < 2 ^ 53 * 2 ^ x.q := by
        refine mul_lt_mul_of_pos_right ?_ (by positivity)
        linarith
    _ = 2 ^ (53 + x.q) := (two_zpow_add 53 x.q).symm

/-- It is not below half of the smallest number. -/
lemma le_of_holds (h : x.Encodes bits) (hv : x.Holds v) : 2 ^ (-1075 : Int) ≤ v := by
  have hm : (1 : ℚ) ≤ x.m := by exact_mod_cast h.pos
  have hsplit : (-1075 : Int) = -1 + -1074 := by norm_num
  calc (2 : ℚ) ^ (-1075 : Int) = 1 / 2 * 2 ^ (-1074 : Int) := by
        rw [hsplit, zpow_add₀ two_ne_zero, zpow_neg_one, one_div]
    _ ≤ 1 / 2 * 2 ^ x.q := by
        gcongr
        · norm_num
        · exact h.least
    _ ≤ (x.m - 1 / 2) * 2 ^ x.q := by
        refine mul_le_mul_of_nonneg_right ?_ (by positivity)
        linarith
    _ ≤ v := (near hv).1

/-- The exponent of a finite number is not above that of the largest one. -/
lemma q_le (h : x.Encodes bits) (hfinite : bits < infinityBits) : x.q ≤ 971 := by
  have hbits := h.bits_eq
  have hfull := h.full
  rw [infinityBits] at hfinite
  omega

/-- Below its own power of two there is a part of the interval only if it is narrow there, and that
part is rounded up. -/
lemma narrow_of_lt (h : x.Encodes bits) (hv : x.Holds v) (hq : -1074 < x.q)
    (hlt : v < 2 ^ (52 + x.q)) : x.m = 2 ^ 52 ∧ (2 ^ 53 - 1 / 2) * 2 ^ (x.q - 1) ≤ v := by
  have hpow : (0 : ℚ) < 2 ^ x.q := by positivity
  have hsplit : (2 : ℚ) ^ (52 + x.q) = 2 ^ 52 * 2 ^ x.q := two_zpow_add 52 x.q
  have hm : x.m = 2 ^ 52 := by
    have hfull : 2 ^ 52 ≤ x.m := h.full.resolve_left hq.ne'
    have hbound : ((x.m : ℚ) - 1 / 2) * 2 ^ x.q < 2 ^ 52 * 2 ^ x.q := by
      rw [← hsplit]
      exact (near hv).1.trans_lt hlt
    have hless : (x.m : ℚ) < 2 ^ 52 + 1 := by
      have hhalf := lt_of_mul_lt_mul_right hbound hpow.le
      linarith
    have hless' : x.m < 2 ^ 52 + 1 := by exact_mod_cast hless
    omega
  refine ⟨hm, ?_⟩
  have hlow := hv.bounds.1
  rw [low, if_pos (h.narrow_iff.mpr ⟨hm, hq⟩), hm] at hlow
  have hhalf : (2 : ℚ) ^ x.q = 2 * 2 ^ (x.q - 1) := by
    rw [← zpow_one_add₀ two_ne_zero, add_sub_cancel]
  rw [hhalf] at hlow
  push_cast at hlow
  linarith

end Binary.Encodes

section Nearest

variable {x : Binary} {bits : Nat} (h : x.Encodes bits) (hfinite : bits < infinityBits)
  (hb : 0 < b) (hholds : x.Holds (a / b))

/-- The bits of a positive fraction, by its exponent and its significand. -/
lemma nearestBits_eq {q : Int} {n : Nat} (hb : 0 < b) (hpos : (0 : ℚ) < a / b)
    (hexponent : max (-1074) (Int.log 2 (a / b : ℚ) - 52) = q)
    (hrounded : roundedQuotient (a * Nat.pow 2 (-q).toNat) (b * Nat.pow 2 q.toNat) = n) :
    nearestBits a b = min infinityBits ((q + 1074).toNat * fractions + n) := by
  have ha : 0 < a := by
    refine Nat.pos_of_ne_zero fun hzero => ?_
    rw [hzero, Nat.cast_zero, zero_div] at hpos
    exact lt_irrefl _ hpos
  rw [nearestBits, if_neg ha.ne', binaryExponent_eq ha hb, hexponent]
  dsimp only
  rw [hrounded]

include h hfinite hb hholds

/-- From its own power of two on, a fraction in the interval has the exponent of the number, and is
rounded to its significand. -/
lemma nearestBits_of_own_exponent (hown : x.q = -1074 ∨ (2 : ℚ) ^ (52 + x.q) ≤ a / b) :
    nearestBits a b = bits := by
  have hpos : (0 : ℚ) < a / b := (Binary.low_pos h.pos).trans_le hholds.bounds.1
  have hexponent : max (-1074) (Int.log 2 (a / b : ℚ) - 52) = x.q := by
    have hlog := (lt_two_zpow_iff hpos _).mp (h.lt_of_holds hholds)
    have hleast := h.least
    rcases hown with hq | hge
    · omega
    · rw [two_zpow_le_iff hpos] at hge
      omega
  obtain ⟨hlow, hhigh, hodd⟩ := Binary.Encodes.near hholds
  have hbits := h.bits_eq
  rw [nearestBits_eq hb hpos hexponent (roundedQuotient_scaled hb hlow hhigh hodd), fractions]
  omega

/-- Below that power of two it has the exponent before, and rounding carries over. -/
lemma nearestBits_of_carry (hq : -1074 < x.q) (hlt : (a / b : ℚ) < 2 ^ (52 + x.q)) :
    nearestBits a b = bits := by
  have hpos : (0 : ℚ) < a / b := (Binary.low_pos h.pos).trans_le hholds.bounds.1
  have hpow : (0 : ℚ) < 2 ^ (x.q - 1) := by positivity
  obtain ⟨hm, hlow⟩ := h.narrow_of_lt hholds hq hlt
  have hhigh : (a / b : ℚ) ≤ (2 ^ 53 + 1 / 2) * 2 ^ (x.q - 1) := by
    calc (a / b : ℚ) ≤ 2 ^ (52 + x.q) := hlt.le
      _ = 2 ^ (53 + (x.q - 1)) := by
          congr 1
          ring
      _ = 2 ^ 53 * 2 ^ (x.q - 1) := two_zpow_add 53 (x.q - 1)
      _ ≤ (2 ^ 53 + 1 / 2) * 2 ^ (x.q - 1) := by
          refine mul_le_mul_of_nonneg_right ?_ hpow.le
          norm_num
  have hexponent : max (-1074) (Int.log 2 (a / b : ℚ) - 52) = x.q - 1 := by
    have hge : (2 : ℚ) ^ (51 + x.q) ≤ a / b := by
      calc (2 : ℚ) ^ (51 + x.q) = 2 ^ (52 + (x.q - 1)) := by
            congr 1
            ring
        _ = 2 ^ 52 * 2 ^ (x.q - 1) := two_zpow_add 52 (x.q - 1)
        _ ≤ (2 ^ 53 - 1 / 2) * 2 ^ (x.q - 1) := by
            refine mul_le_mul_of_nonneg_right ?_ hpow.le
            norm_num
        _ ≤ a / b := hlow
    rw [two_zpow_le_iff hpos] at hge
    rw [lt_two_zpow_iff hpos] at hlt
    omega
  have hrounded : roundedQuotient (a * Nat.pow 2 (-(x.q - 1)).toNat)
      (b * Nat.pow 2 (x.q - 1).toNat) = 2 ^ 53 := by
    refine roundedQuotient_scaled hb ?_ ?_ fun hodd => ?_
    · push_cast
      exact hlow
    · push_cast
      exact hhigh
    · norm_num at hodd
  have hsum : (x.q - 1 + 1074).toNat * fractions + 2 ^ 53 = bits := by
    rw [h.bits_eq, hm, fractions]
    omega
  rw [nearestBits_eq hb hpos hexponent hrounded, hsum, min_eq_right hfinite.le]

/-- **A fraction in the interval of a number rounds to that number.** -/
theorem nearestBits_of_holds : nearestBits a b = bits := by
  by_cases hown : x.q = -1074 ∨ (2 : ℚ) ^ (52 + x.q) ≤ a / b
  · exact nearestBits_of_own_exponent h hfinite hb hholds hown
  · obtain ⟨hq, hlt⟩ := not_or.mp hown
    have hleast := h.least
    exact nearestBits_of_carry h hfinite hb hholds (by omega) (lt_of_not_ge hlt)

end Nearest

end AskSql.Decimal
