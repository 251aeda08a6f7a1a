import AskSql.Decimal.Shortest
import Mathlib.Algebra.Order.Field.Power
import Mathlib.Data.Rat.Cast.Order
import Mathlib.Tactic.Lemma
import Mathlib.Tactic.Linarith
import Mathlib.Tactic.LinearCombination
import Mathlib.Tactic.Positivity
import Mathlib.Tactic.Ring

/-!
The interval of the rationals that round to a binary number.

The comparisons by which a decimal is chosen are made between natural numbers, all scaled by the
same factor. Without the factor they say that the decimal lies in the interval between the points
halfway to the neighbours of the number. Whatever the search comes to, its result lies there.

* `Binary.value`, `Binary.low`, `Binary.high`: the number and the ends of its interval.
* `Binary.Holds`: the interval holds a rational; its ends belong to it just if `m` is even.
* `Binary.readsBack_iff`: the comparisons of natural numbers decide that.
* `Binary.shortest_holds`: the chosen decimal lies in the interval.
-/

namespace AskSql.Decimal

/-- A power with an exponent that may be negative, by natural powers. -/
lemma pow_toNat {b : ℚ} (hb : b ≠ 0) (z : Int) : b ^ z.toNat = b ^ z * b ^ (-z).toNat := by
  rw [← zpow_natCast, ← zpow_natCast, ← zpow_add₀ hb]
  congr 1
  omega

/-- The value of a decimal. -/
def Scaled.value (s : Scaled) : ℚ := s.digits * 10 ^ s.exponent

namespace Binary

/-- The number as a rational. -/
def value (x : Binary) : ℚ := x.m * 2 ^ x.q

/-- The point halfway to the number below. -/
def low (x : Binary) : ℚ := (x.m - if x.narrowBelow then 1 / 4 else 1 / 2) * 2 ^ x.q

/-- The point halfway to the number above. -/
def high (x : Binary) : ℚ := (x.m + 1 / 2) * 2 ^ x.q

/-- The rational rounds to the number. -/
def Holds (x : Binary) (v : ℚ) : Prop :=
  if x.m % 2 = 0 then x.low ≤ v ∧ v ≤ x.high else x.low < v ∧ v < x.high

variable {x : Binary}

lemma Holds.bounds {v : ℚ} (h : x.Holds v) : x.low ≤ v ∧ v ≤ x.high := by
  rw [Holds] at h
  split at h
  · exact h
  · exact ⟨h.1.le, h.2.le⟩

/-- The number itself lies in its interval. -/
lemma value_holds (x : Binary) : x.Holds x.value := by
  have hpos : (0 : ℚ) < 2 ^ x.q := by positivity
  have hlow : x.low < x.value := by
    rw [low, value]
    refine mul_lt_mul_of_pos_right ?_ hpos
    split <;> linarith
  have hhigh : x.value < x.high := by
    rw [high, value]
    refine mul_lt_mul_of_pos_right ?_ hpos
    linarith
  rw [Holds]
  split
  · exact ⟨hlow.le, hhigh.le⟩
  · exact ⟨hlow, hhigh⟩

/-- Zero does not round to a positive number. -/
lemma low_pos (hm : 0 < x.m) : 0 < x.low := by
  have hone : (1 : ℚ) ≤ x.m := by exact_mod_cast hm
  rw [low]
  refine mul_pos ?_ (by positivity)
  split <;> linarith

/-! ### Comparing by natural numbers -/

/-- Quarters of 2^`q` and decimals of the grid 10^`g` are scaled by the same factor. -/
lemma exists_factor (g q : Int) : ∃ c : ℚ, 0 < c
    ∧ (∀ k : Nat, ((k * binaryFactor g q : Nat) : ℚ) = k / 4 * 2 ^ q * c)
    ∧ ∀ d : Nat, ((d * decimalFactor g q : Nat) : ℚ) = d * 10 ^ g * c := by
  have hfour : (2 : ℚ) ^ q * 2 ^ (2 - q) = 4 := by
    rw [← zpow_add₀ two_ne_zero, add_sub_cancel]
    norm_num
  refine ⟨2 ^ (2 - q) * (2 ^ (q - 2).toNat * 10 ^ (-g).toNat), by positivity, fun k => ?_,
    fun d => ?_⟩
  · rw [binaryFactor, Nat.pow_eq, Nat.pow_eq]
    push_cast
    linear_combination (-(k : ℚ) / 4 * (2 ^ (q - 2).toNat * 10 ^ (-g).toNat)) * hfour
  · have hten := pow_toNat (show (10 : ℚ) ≠ 0 by norm_num) g
    have htwo := pow_toNat two_ne_zero (2 - q)
    rw [neg_sub] at htwo
    rw [decimalFactor, Nat.pow_eq, Nat.pow_eq]
    push_cast
    rw [hten, htwo]
    ring

/-- The comparisons of natural numbers decide whether a decimal lies in the interval. -/
lemma readsBack_iff (hm : 0 < x.m) (d : Nat) (g : Int) :
    x.readsBack d g = true ↔ x.Holds (d * 10 ^ g) := by
  obtain ⟨c, hc, hbinary, hdecimal⟩ := exists_factor g x.q
  -- the two ends, scaled
  have hlow :
      (((if x.narrowBelow then 4 * x.m - 1 else 4 * x.m - 2) * binaryFactor g x.q : Nat) : ℚ)
        = x.low * c := by
    rw [hbinary, low]
    split
    · rw [Nat.cast_sub (by omega)]
      push_cast
      ring
    · rw [Nat.cast_sub (by omega)]
      push_cast
      ring
  have hhigh : (((4 * x.m + 2) * binaryFactor g x.q : Nat) : ℚ) = x.high * c := by
    rw [hbinary, high]
    push_cast
    ring
  rw [readsBack, Holds]
  split
  · rw [Bool.and_eq_true, decide_eq_true_eq, decide_eq_true_eq, ← Nat.cast_le (α := ℚ),
      ← Nat.cast_le (α := ℚ), hlow, hhigh, hdecimal, mul_le_mul_iff_left₀ hc,
      mul_le_mul_iff_left₀ hc]
  · rw [Bool.and_eq_true, decide_eq_true_eq, decide_eq_true_eq, ← Nat.cast_lt (α := ℚ),
      ← Nat.cast_lt (α := ℚ), hlow, hhigh, hdecimal, mul_lt_mul_iff_left₀ hc,
      mul_lt_mul_iff_left₀ hc]

/-! ### What the search finds -/

/-- The decimal that is taken on a grid reads back. -/
lemma readsBack_of_onGrid {tie : Tie} {g : Int} {d : Nat} (h : onGrid tie x g = some d) :
    x.readsBack d g = true := by
  unfold onGrid at h
  dsimp only at h
  split at h
  · next hbelow _ => rwa [← Option.some.inj h]
  · next _ habove => rwa [← Option.some.inj h]
  · cases h
  · next hbelow habove =>
      -- either neighbour may be taken, and both read back
      split at h
      · rwa [← Option.some.inj h]
      · split at h
        · rwa [← Option.some.inj h]
        · split at h
          · rwa [← Option.some.inj h]
          · rw [← Option.some.inj h]
            split
            · exact hbelow
            · exact habove

/-- So does the decimal that the search comes to. -/
lemma readsBack_of_search {tie : Tie} {n : Nat} {g : Int} {s : Scaled}
    (h : search tie x n g = some s) : x.readsBack s.digits s.exponent = true := by
  induction n generalizing g with
  | zero => cases h
  | succ n ih =>
      rw [search] at h
      split at h
      · next d hd =>
          cases h
          exact readsBack_of_onGrid hd
      · exact ih h

/-- Without a search the decimal is the number itself. -/
lemma exact_value (x : Binary) : x.exact.value = x.value := by
  rw [exact, value]
  split
  · next hq =>
      have hten : (10 : ℚ) ^ x.q = 2 ^ x.q * 5 ^ x.q := by
        rw [← mul_zpow]
        norm_num
      have hfive : (5 : ℚ) ^ (-x.q).toNat * 5 ^ x.q = 1 := by
        rw [← zpow_natCast, ← zpow_add₀ (by norm_num), Int.toNat_of_nonneg (by omega),
          neg_add_cancel, zpow_zero]
      rw [Scaled.value, Nat.pow_eq, hten]
      push_cast
      linear_combination ((x.m : ℚ) * 2 ^ x.q) * hfive
  · next hq =>
      have htwo : (2 : ℚ) ^ x.q.toNat = 2 ^ x.q := by
        rw [← zpow_natCast, Int.toNat_of_nonneg (by omega)]
      rw [Scaled.value, Nat.pow_eq, zpow_zero, mul_one]
      push_cast
      rw [htwo]

/-- **The chosen decimal rounds to the number.** -/
theorem shortest_holds (hm : 0 < x.m) (tie : Tie) : x.Holds (x.shortest tie).value := by
  rw [shortest]
  cases hsearch : search tie x 24 x.coarsest with
  | none =>
      rw [Option.getD_none, exact_value]
      exact value_holds x
  | some s => exact (readsBack_iff hm _ _).mp (readsBack_of_search hsearch)

/-- It is not zero. -/
lemma shortest_digits_pos (hm : 0 < x.m) (tie : Tie) : 0 < (x.shortest tie).digits := by
  have hvalue : 0 < (x.shortest tie).value :=
    (low_pos hm).trans_le (shortest_holds hm tie).bounds.1
  rw [Scaled.value] at hvalue
  exact_mod_cast pos_of_mul_pos_left hvalue (by positivity)

end Binary

end AskSql.Decimal
