/-!
The floating-point number nearest to a fraction.

A number of 64 bits is n · 2^q with n below 2^53, where q is never below -1074 and n is at least
2^52 unless q is -1074. So the fraction fixes q, and n is the fraction divided by 2^q, rounded to
the nearest integer, a tie to the even one. Put together as exponent and fraction the two are
added up as integers: should n reach 2^53 by rounding, the carry leads to the right number by
itself.

All arithmetic is on natural numbers and exact.

* `roundedQuotient`: a quotient rounded to an integer.
* `nearestBits`: the bits of the nearest number.
* `nearest`: the nearest number.
-/

namespace AskSql.Decimal

/-- A quotient rounded to the nearest integer, a tie to the even one. -/
def roundedQuotient (a b : Nat) : Nat :=
  let below := a / b
  let rest := 2 * (a % b)
  if rest < b then below
  else if b < rest then below + 1
  else below + below % 2

/-- Whether a / b is at least 2^n · 2^q. -/
def reaches (a b n : Nat) (q : Int) : Bool :=
  b * Nat.pow 2 (n + q.toNat) ≤ a * Nat.pow 2 (-q).toNat

/-- The exponent q of the number nearest to a positive fraction a / b: by the lengths of
numerator and denominator it is one of two, and it is at least -1074. -/
def binaryExponent (a b : Nat) : Int :=
  let q := (a.log2 : Int) - b.log2 - 53
  max (-1074) (if reaches a b 53 q then q + 1 else q)

/-- The bits of positive infinity. -/
def infinityBits : Nat := 0x7FF0000000000000

/-- The number of fractions that belong to one exponent. -/
def fractions : Nat := 0x10000000000000

/-- The bits of the number nearest to the fraction a / b. -/
def nearestBits (a b : Nat) : Nat :=
  if a = 0 then 0
  else
    let q := binaryExponent a b
    let n := roundedQuotient (a * Nat.pow 2 (-q).toNat) (b * Nat.pow 2 q.toNat)
    min infinityBits ((q + 1074).toNat * fractions + n)

/-- The number nearest to the fraction a / b. -/
def nearest (a b : Nat) : Float := Float.ofBits (nearestBits a b).toUInt64

end AskSql.Decimal
