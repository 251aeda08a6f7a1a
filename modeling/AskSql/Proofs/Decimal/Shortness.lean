import AskSql.Proofs.Decimal.Rounding
import Mathlib.Algebra.Order.Floor.Semifield

/-!
The chosen decimal is the shortest.

The interval of the rationals that round to a number has no gaps and holds the number itself. So as
soon as it holds any decimal of a grid it holds one of the two that are next to the number, and the
search, which looks at these two alone, misses no grid. It starts so far up that no decimal above
holds, and goes down to where the grid is finer than the interval. So it finds the coarsest grid
that has a decimal in the interval, which is why the digits that it finds do not end in a zero.

* `two_zpow_le_ten_zpow`, `ten_zpow_le_two_zpow`: powers of two and of ten compared.
* `Binary.onGrid_isSome_iff`: no decimal on a grid is missed.
* `Binary.onGrid_eq_none_of_search`, `Binary.search_isSome`: which grid the search comes to.
* `Binary.le_shortest_exponent`: no coarser decimal rounds to the number.
* `Binary.shortest_digits_mod_ten`: its digits do not end in a zero.
-/

namespace AskSql.Decimal

/-! ### Powers of two and of ten -/

/-- Powers are compared by their exponents if the bases are. -/
lemma zpow_le_zpow_of_pow_le {a b : ℚ} (ha : 0 < a) (hb : 1 ≤ b) {r s : ℕ} (hr : r ≠ 0)
    (h : a ^ r ≤ b ^ s) {n e : Int} (hn : 0 ≤ n) (hne : s * n ≤ r * e) : a ^ n ≤ b ^ e := by
  have hroot : (a ^ n) ^ r ≤ (b ^ e) ^ r :=
    calc (a ^ n) ^ r = (a ^ r) ^ n := by rw [← zpow_natCast, ← zpow_natCast, zpow_comm]
      _ ≤ (b ^ s) ^ n := zpow_le_zpow_left₀ hn (by positivity) h
      _ = b ^ (s * n) := by rw [zpow_mul, zpow_natCast]
      _ ≤ b ^ (r * e) := zpow_le_zpow_right₀ hb hne
      _ = (b ^ e) ^ r := by rw [mul_comm, zpow_mul, zpow_natCast]
  exact le_of_pow_le_pow_left₀ hr (by positivity) hroot

/-- The logarithm of two is just below 28/93. -/
lemma two_pow_le_ten_pow : (2 : ℚ) ^ 93 ≤ 10 ^ 28 := by norm_num

/-- The logarithm of two is just above 59/196. -/
lemma ten_pow_le_two_pow : (10 : ℚ) ^ 59 ≤ 2 ^ 196 := by norm_num

/-- A power of two is at most a power of ten if the exponents say so. -/
lemma two_zpow_le_ten_zpow {n e : Int} (hpos : 0 ≤ n → 28 * n ≤ 93 * e)
    (hneg : n ≤ 0 → 59 * n ≤ 196 * e) : (2 : ℚ) ^ n ≤ 10 ^ e := by
  rcases le_total 0 n with hn | hn
  · exact zpow_le_zpow_of_pow_le two_pos (by norm_num) (by norm_num) two_pow_le_ten_pow hn (hpos hn)
  rcases le_total 0 e with he | he
  · calc (2 : ℚ) ^ n ≤ 1 := zpow_le_one_of_nonpos₀ one_le_two hn
      _ ≤ 10 ^ e := one_le_zpow₀ (by norm_num) he
  · have hback : (10 : ℚ) ^ (-e) ≤ 2 ^ (-n) := by
      refine zpow_le_zpow_of_pow_le (by norm_num) one_le_two (by norm_num) ten_pow_le_two_pow
        (by omega) ?_
      have hexponents := hneg hn
      push_cast
      omega
    rw [zpow_neg, zpow_neg] at hback
    exact (inv_le_inv₀ (by positivity) (by positivity)).mp hback

/-- A power of ten is at most a power of two if the exponents say so. -/
lemma ten_zpow_le_two_zpow {n e : Int} (hpos : 0 ≤ e → 196 * e ≤ 59 * n)
    (hneg : e ≤ 0 → 93 * e ≤ 28 * n) : (10 : ℚ) ^ e ≤ 2 ^ n := by
  rcases le_total 0 e with he | he
  · exact zpow_le_zpow_of_pow_le (by norm_num) one_le_two (by norm_num) ten_pow_le_two_pow he
      (hpos he)
  rcases le_total 0 n with hn | hn
  · calc (10 : ℚ) ^ e ≤ 1 := zpow_le_one_of_nonpos₀ (by norm_num) he
      _ ≤ 2 ^ n := one_le_zpow₀ one_le_two hn
  · have hback : (2 : ℚ) ^ (-n) ≤ 10 ^ (-e) := by
      refine zpow_le_zpow_of_pow_le two_pos (by norm_num) (by norm_num) two_pow_le_ten_pow
        (by omega) ?_
      have hexponents := hneg he
      push_cast
      omega
    rw [zpow_neg, zpow_neg] at hback
    exact (inv_le_inv₀ (by positivity) (by positivity)).mp hback

namespace Binary

variable {x : Binary} {bits : Nat} {tie : Tie} {g : Int}

/-! ### Points of a grid -/

/-- The interval has no gaps. -/
lemma Holds.convex {u v w : ℚ} (hu : x.Holds u) (hw : x.Holds w) (huv : u ≤ v) (hvw : v ≤ w) :
    x.Holds v := by
  rw [Holds] at hu hw ⊢
  split
  · next heven =>
      rw [if_pos heven] at hu hw
      exact ⟨hu.1.trans huv, hvw.trans hw.2⟩
  · next hodd =>
      rw [if_neg hodd] at hu hw
      exact ⟨hu.1.trans_le huv, hvw.trans_lt hw.2⟩

/-- The decimal below the number on a grid. -/
lemma below_eq_floor (x : Binary) (g : Int) :
    4 * x.m * binaryFactor g x.q / decimalFactor g x.q = ⌊x.value / 10 ^ g⌋₊ := by
  obtain ⟨c, hc, hbinary, hdecimal⟩ := exists_factor g x.q
  have hvalue : ((4 * x.m * binaryFactor g x.q : Nat) : ℚ) = x.value * c := by
    rw [hbinary, value]
    push_cast
    ring
  have hgrid : ((decimalFactor g x.q : Nat) : ℚ) = 10 ^ g * c := by
    simpa using hdecimal 1
  rw [← Nat.floor_div_eq_div (K := ℚ), hvalue, hgrid, mul_div_mul_right _ _ hc.ne']

/-- A grid has a decimal for the number if one of the two next to it reads back. -/
lemma onGrid_isSome (tie : Tie) (x : Binary) (g : Int) :
    (onGrid tie x g).isSome = (x.readsBack ⌊x.value / 10 ^ g⌋₊ g
      || x.readsBack (⌊x.value / 10 ^ g⌋₊ + 1) g) := by
  unfold onGrid
  dsimp only
  rw [below_eq_floor]
  cases x.readsBack ⌊x.value / 10 ^ g⌋₊ g with
  | false => cases x.readsBack (⌊x.value / 10 ^ g⌋₊ + 1) g <;> rfl
  | true =>
      cases x.readsBack (⌊x.value / 10 ^ g⌋₊ + 1) g with
      | false => rfl
      | true =>
          dsimp only
          split_ifs <;> cases tie <;> rfl

/-- No decimal on a grid is missed. -/
lemma onGrid_isSome_iff (tie : Tie) (hm : 0 < x.m) :
    (onGrid tie x g).isSome = true ↔ ∃ d : Nat, x.Holds (d * 10 ^ g) := by
  have hpos : (0 : ℚ) < 10 ^ g := by positivity
  have hvalue : 0 ≤ x.value / 10 ^ g := by
    rw [value]
    positivity
  rw [onGrid_isSome, Bool.or_eq_true, readsBack_iff hm, readsBack_iff hm]
  constructor
  · rintro (h | h)
    · exact ⟨_, h⟩
    · exact ⟨_, h⟩
  · rintro ⟨d, hd⟩
    rcases le_total (d * 10 ^ g : ℚ) x.value with hbelow | habove
    · -- the neighbour below lies between the decimal and the number
      refine .inl (hd.convex (value_holds x) ?_ ?_)
      · have hfloor : d ≤ ⌊x.value / 10 ^ g⌋₊ := Nat.le_floor ((le_div_iff₀ hpos).mpr hbelow)
        gcongr
      · exact (le_div_iff₀ hpos).mp (Nat.floor_le hvalue)
    · by_cases hat : d = ⌊x.value / 10 ^ g⌋₊
      · exact .inl (hat ▸ hd)
      · -- the neighbour above lies between the number and the decimal
        refine .inr ((value_holds x).convex hd ?_ ?_)
        · push_cast
          exact (div_le_iff₀ hpos).mp (Nat.lt_floor_add_one _).le
        · have hfloor : ⌊x.value / 10 ^ g⌋₊ ≤ d :=
            Nat.floor_le_of_le ((div_le_iff₀ hpos).mpr habove)
          have hnext : ⌊x.value / 10 ^ g⌋₊ + 1 ≤ d := by omega
          gcongr

/-! ### The search -/

/-- The search comes to a grid that has a decimal, and no grid before it has one. -/
lemma onGrid_eq_none_of_search {n : Nat} {s : Scaled} (h : search tie x n g = some s) :
    ∀ i, s.exponent < i → i ≤ g → onGrid tie x i = none := by
  induction n generalizing g with
  | zero => cases h
  | succ n ih =>
      rw [search] at h
      split at h
      · next digits hdigits =>
          cases h
          exact fun i hlt hle => absurd hlt (not_lt.mpr hle)
      · next hnone =>
          intro i hlt hle
          rcases eq_or_lt_of_le hle with rfl | hbelow
          · exact hnone
          · exact ih h i hlt (by omega)

/-- It comes to a grid if any that it passes has a decimal. -/
lemma search_isSome {n : Nat} {i : Int} (hle : i ≤ g) (hlt : g < i + n)
    (hi : (onGrid tie x i).isSome = true) : (search tie x n g).isSome = true := by
  induction n generalizing g with
  | zero => omega
  | succ n ih =>
      rw [search]
      split
      · rfl
      · next hnone =>
          have hne : i ≠ g := by
            rintro rfl
            rw [hnone] at hi
            cases hi
          exact ih (by omega) (by omega)

/-! ### Where it starts and where it ends at the latest -/

lemma value_lt_two_zpow (x : Binary) : x.value < 2 ^ (x.q + x.m.log2 + 1) := by
  have hm : (x.m : ℚ) < 2 ^ (x.m.log2 + 1) := by exact_mod_cast Nat.lt_log2_self
  have hsplit : x.q + x.m.log2 + 1 = ((x.m.log2 + 1 : Nat) : Int) + x.q := by
    push_cast
    ring
  rw [value, hsplit, two_zpow_add]
  exact mul_lt_mul_of_pos_right hm (by positivity)

/-- From the number on up to halfway to its neighbour everything rounds to it. -/
lemma holds_of_lt_high {v : ℚ} (hlow : x.value ≤ v) (hhigh : v < x.high) : x.Holds v := by
  have hself := value_holds x
  rw [Holds] at hself ⊢
  split
  · next heven =>
      rw [if_pos heven] at hself
      exact ⟨hself.1.trans hlow, hhigh.le⟩
  · next hodd =>
      rw [if_neg hodd] at hself
      exact ⟨hself.1.trans_le hlow, hhigh⟩

section Bounds

variable (h : x.Encodes bits) (hfinite : bits < infinityBits)

include h

lemma log2_lt : x.m.log2 < 53 := (Nat.log2_lt h.pos.ne').mpr h.below

include hfinite

/-- The search starts on a grid that is hardly finer than the number. -/
lemma value_lt_coarsest : x.value < 2 * 10 ^ x.coarsest := by
  have hlog := log2_lt h
  have hleast := h.least
  have hq := h.q_le hfinite
  have hpow : (2 : ℚ) ^ (x.q + x.m.log2) ≤ 10 ^ x.coarsest := by
    rw [coarsest]
    refine two_zpow_le_ten_zpow (fun _ => ?_) fun _ => ?_
    · omega
    · omega
  calc x.value < 2 ^ (x.q + x.m.log2 + 1) := value_lt_two_zpow x
    _ = 2 * 2 ^ (x.q + x.m.log2) := by rw [zpow_add₀ two_ne_zero, zpow_one, mul_comm]
    _ ≤ 2 * 10 ^ x.coarsest := by gcongr

/-- The last grid that it comes to is finer than the interval. -/
lemma finest_lt : (10 : ℚ) ^ (x.coarsest - 23) < 1 / 2 * 2 ^ x.q := by
  have hlog := log2_lt h
  have hleast := h.least
  have hq := h.q_le hfinite
  have hpow : (10 : ℚ) ^ (x.coarsest - 23) ≤ 2 ^ (x.q - 2) := by
    rw [coarsest]
    refine ten_zpow_le_two_zpow (fun _ => ?_) fun _ => ?_
    · omega
    · omega
  have htwo : (2 : ℚ) ^ (x.q - 2) = 1 / 4 * 2 ^ x.q := by
    rw [zpow_sub₀ two_ne_zero]
    ring
  have hpos : (0 : ℚ) < 2 ^ x.q := by positivity
  linarith

/-- So it has a decimal for the number. -/
lemma exists_holds_finest : ∃ d : Nat, x.Holds (d * 10 ^ (x.coarsest - 23)) := by
  have hgrid := finest_lt h hfinite
  generalize x.coarsest - 23 = g at hgrid
  have hpos : (0 : ℚ) < 10 ^ g := by positivity
  have hvalue : 0 ≤ x.value / 10 ^ g := by
    rw [value]
    positivity
  have hbelow := (le_div_iff₀ hpos).mp (Nat.floor_le hvalue)
  have habove := (div_lt_iff₀ hpos).mp (Nat.lt_floor_add_one (x.value / 10 ^ g))
  have hhigh : x.high = x.value + 1 / 2 * 2 ^ x.q := by
    rw [high, value]
    ring
  refine ⟨⌊x.value / 10 ^ g⌋₊ + 1, holds_of_lt_high ?_ ?_⟩
  · push_cast
    exact habove.le
  · push_cast
    rw [hhigh]
    linarith

lemma exists_search (tie : Tie) : ∃ s, search tie x 24 x.coarsest = some s := by
  have hfinest := (onGrid_isSome_iff tie h.pos).mpr (exists_holds_finest h hfinite)
  exact Option.isSome_iff_exists.mp (search_isSome (by omega) (by omega) hfinest)

/-- **No decimal on a coarser grid rounds to the number** than the one that is chosen. -/
theorem le_shortest_exponent {d : Nat} (hd : x.Holds (d * 10 ^ g)) (tie : Tie) :
    g ≤ (x.shortest tie).exponent := by
  obtain ⟨s, hs⟩ := exists_search h hfinite tie
  have hshortest : x.shortest tie = s := by
    rw [shortest, hs, Option.getD_some]
  rw [hshortest]
  by_contra hlt
  rcases le_or_gt g x.coarsest with hle | hgt
  · -- the search has passed this grid
    have hsome := (onGrid_isSome_iff tie h.pos).mpr ⟨d, hd⟩
    rw [onGrid_eq_none_of_search hs g (by omega) hle] at hsome
    cases hsome
  · -- a decimal of this grid is too large, unless it is zero
    have hone : (1 : ℚ) ≤ d := by
      have hpos := (low_pos h.pos).trans_le hd.bounds.1
      have hdigits : (0 : ℚ) < d := pos_of_mul_pos_left hpos (by positivity)
      exact_mod_cast hdigits
    have hm : (1 : ℚ) ≤ x.m := by exact_mod_cast h.pos
    have hvalue : 2 ^ x.q ≤ x.value := le_mul_of_one_le_left (by positivity) hm
    have hcoarsest := value_lt_coarsest h hfinite
    have hstart : (0 : ℚ) < 10 ^ x.coarsest := by positivity
    have hloop : (10 : ℚ) ^ g < 10 ^ g :=
      calc (10 : ℚ) ^ g ≤ d * 10 ^ g := le_mul_of_one_le_left (by positivity) hone
        _ ≤ x.high := hd.bounds.2
        _ = x.value + 1 / 2 * 2 ^ x.q := by
            rw [high, value]
            ring
        _ < 10 * 10 ^ x.coarsest := by linarith
        _ = 10 ^ (x.coarsest + 1) := by rw [zpow_add₀ (by norm_num), zpow_one, mul_comm]
        _ ≤ 10 ^ g := zpow_le_zpow_right₀ (by norm_num) (by omega)
    exact lt_irrefl _ hloop

/-- Its digits do not end in a zero, which could be left out. -/
lemma shortest_digits_mod_ten (tie : Tie) : (x.shortest tie).digits % 10 ≠ 0 := by
  intro hzero
  have hholds := shortest_holds h.pos tie
  have hdigits : (x.shortest tie).digits = (x.shortest tie).digits / 10 * 10 := by omega
  have hcoarser : (x.shortest tie).value
      = ((x.shortest tie).digits / 10 : Nat) * 10 ^ ((x.shortest tie).exponent + 1) := by
    rw [Scaled.value, zpow_add₀ (by norm_num), zpow_one]
    nth_rewrite 1 [hdigits]
    push_cast
    ring
  rw [hcoarser] at hholds
  have hle := le_shortest_exponent h hfinite hholds tie
  omega

end Bounds

end Binary

end AskSql.Decimal
