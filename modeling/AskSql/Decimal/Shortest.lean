/-!
The shortest decimal that stands for a binary floating-point number.

A finite number other than zero is m · 2^q. The reals that round to it form an interval: from
halfway to the number below to halfway to the number above, the ends included exactly when m is
even. Below a power of two the neighbour is only half as far away. Among the decimals in that
interval the one with the fewest digits stands for the number; of two such the closer one, and a
tie goes as the format says.

* `Binary`: the number, decoded from its bits.
* `Binary.readsBack`: whether a decimal rounds to the number.
* `Binary.shortest`: the chosen decimal, found by going from coarse grids of decimals to finer ones.

All arithmetic is on natural numbers and exact.
-/

namespace AskSql.Decimal

/-- The decimal `digits` · 10^`exponent`. -/
structure Scaled where
  digits : Nat
  exponent : Int
deriving DecidableEq, Repr

/-- Which of two equally close decimals is taken. -/
inductive Tie where
  | even
  | up
deriving DecidableEq, Repr

/-- A positive binary number `m` · 2^`q`. The gap to the number below it is half the gap to the
number above it when `narrowBelow` holds. -/
structure Binary where
  m : Nat
  q : Int
  narrowBelow : Bool
deriving DecidableEq, Repr

namespace Binary

/-- Decodes the magnitude of a finite number from its bits without the sign: `width` bits of
fraction below the exponent, and the power of two that belongs to the smallest numbers. -/
def ofBits (width : Nat) (least : Int) (bits : Nat) : Binary :=
  let field := bits / Nat.pow 2 width
  let fraction := bits % Nat.pow 2 width
  if field = 0 then ⟨fraction, least, false⟩
  else ⟨Nat.pow 2 width + fraction, least + (field : Int) - 1, fraction = 0 && field > 1⟩

/-- The bit of the sign among 64 bits. -/
def signBit64 : Nat := 0x8000000000000000

/-- The bit of the sign among 32 bits. -/
def signBit32 : Nat := 0x80000000

/-- The magnitude of a finite number of 64 bits. -/
def ofFloat (x : Float) : Binary :=
  ofBits 52 (-1074) (x.toBits.toNat % signBit64)

/-- The magnitude of a finite number of 32 bits. -/
def ofFloat32 (x : Float32) : Binary :=
  ofBits 23 (-149) (x.toBits.toNat % signBit32)

/-- The factor of a decimal on the grid 10^`g` when it is compared with quarters of 2^`q`. -/
def decimalFactor (g q : Int) : Nat :=
  Nat.pow 10 g.toNat * Nat.pow 2 (2 - q).toNat

/-- The factor of quarters of 2^`q` when they are compared with a decimal on the grid 10^`g`. -/
def binaryFactor (g q : Int) : Nat :=
  Nat.pow 2 (q - 2).toNat * Nat.pow 10 (-g).toNat

/-- Whether `digits` · 10^`g` lies in the interval of the reals that round to the number. -/
def readsBack (x : Binary) (digits : Nat) (g : Int) : Bool :=
  let low := (if x.narrowBelow then 4 * x.m - 1 else 4 * x.m - 2) * binaryFactor g x.q
  let high := (4 * x.m + 2) * binaryFactor g x.q
  let value := digits * decimalFactor g x.q
  if x.m % 2 = 0 then low ≤ value && value ≤ high else low < value && value < high

/-- The decimal of the grid 10^`g` that stands for the number: of its two neighbours on the grid
the one that reads back, and the closer one if both do. -/
def onGrid (tie : Tie) (x : Binary) (g : Int) : Option Nat :=
  let factor := decimalFactor g x.q
  let value := 4 * x.m * binaryFactor g x.q
  let below := value / factor
  match x.readsBack below g, x.readsBack (below + 1) g with
  | true, false => some below
  | false, true => some (below + 1)
  | false, false => none
  | true, true =>
      let rest := value % factor
      if 2 * rest < factor then some below
      else if factor < 2 * rest then some (below + 1)
      else match tie with
        | .up => some (below + 1)
        | .even => some (if below % 2 = 0 then below else below + 1)

/-- Goes from the grid 10^`g` to finer grids, at most `n` of them, until one stands for the
number. -/
def search (tie : Tie) (x : Binary) : Nat → Int → Option Scaled
  | 0, _ => none
  | n + 1, g =>
      match onGrid tie x g with
      | some digits => some ⟨digits, g⟩
      | none => search tie x n (g - 1)

/-- A power of ten above the number: 2^b ≤ 10^(b · 30103 / 100000 + 1) for the exponents in use. -/
def coarsest (x : Binary) : Int :=
  (x.q + x.m.log2 + 1) * 30103 / 100000 + 1

/-- The number as a decimal without rounding. -/
def exact (x : Binary) : Scaled :=
  if x.q < 0 then ⟨x.m * Nat.pow 5 (-x.q).toNat, x.q⟩ else ⟨x.m * Nat.pow 2 x.q.toNat, 0⟩

/-- The shortest decimal that stands for the number. Seventeen digits are enough for 64 bits, and
the coarsest grid is at most three steps too coarse. -/
def shortest (tie : Tie) (x : Binary) : Scaled :=
  (search tie x 24 x.coarsest).getD x.exact

end Binary

end AskSql.Decimal
