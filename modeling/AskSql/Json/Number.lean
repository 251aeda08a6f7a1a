import AskSql.Decimal.Numeral
import AskSql.Json.Value

/-!
The value of a JSON number.

The digits are collected into a significand of 64 bits. Digits that no longer fit are dropped:
before the point each of them adds one to the exponent, after the point they are ignored. A
number that is not an integer is then the significand, rounded to a floating-point number, times
or divided by a power of ten, rounded again. Two roundings can differ from the nearest number in
the last place.

* `Significand`: digits and exponent, collected from left to right.
* `scale`: the significand times a power of ten, none if that is out of range.
* `Numeral.toJson`: the value of a numeral.
-/

namespace AskSql.Json

open AskSql.Decimal

/-- The greatest significand, that of 64 bits. -/
def significandLimit : Nat := 0xFFFFFFFFFFFFFFFF

/-- Digits collected so far. -/
structure Significand where
  digits : Nat
  exponent : Int

namespace Significand

/-- Whether one more digit fits. -/
def fits (s : Significand) (c : Char) : Bool :=
  s.digits * 10 + digitValue c ≤ significandLimit

/-- Collects the digits before the point: after the first one that does not fit, each adds one to
the exponent. -/
def addWhole (s : Significand) : List Char → Significand
  | [] => s
  | c :: rest =>
      if s.fits c then addWhole ⟨s.digits * 10 + digitValue c, s.exponent⟩ rest
      else ⟨s.digits, s.exponent + (rest.length + 1)⟩

/-- Collects the digits after the point, up to the first one that does not fit. -/
def addFraction (s : Significand) : List Char → Significand
  | [] => s
  | c :: rest =>
      if s.fits c then addFraction ⟨s.digits * 10 + digitValue c, s.exponent - 1⟩ rest
      else s

end Significand

/-- A power of ten from 10^0 to 10^308, rounded to a floating-point number. -/
def powerOfTen (n : Nat) : Float := nearest (Nat.pow 10 n) 1

/-- The significand times a power of ten; none if the result is infinite. Below 10^-308 it is
divided twice, and below 10^-616 nothing is left. -/
def scale (digits : Nat) (exponent : Int) : Option Float :=
  let f := Float.ofNat digits
  if 308 < exponent then if digits = 0 then some 0 else none
  else if 0 ≤ exponent then
    let product := f * powerOfTen exponent.toNat
    if product.isInf then none else some product
  else if -308 ≤ exponent then some (f / powerOfTen (-exponent).toNat)
  else if -616 ≤ exponent then some (f / powerOfTen 308 / powerOfTen (-exponent - 308).toNat)
  else some 0

/-- The greatest exponent that is counted; a larger one overflows or underflows whatever the
digits. -/
def exponentLimit : Nat := 0x7FFFFFFF

/-- A floating-point number with the sign of the numeral. -/
def withSign (negative : Bool) (f : Float) : Json :=
  real (if negative then -f else f)

/-- The greatest magnitude of a negative integer. -/
def negativeLimit : Nat := 0x8000000000000000

/-- The value of a numeral, none if it is too large for a floating-point number. -/
def ofNumeral (n : Numeral) : Option Json :=
  let whole := (Significand.mk 0 0).addWhole n.whole
  match n.fraction, n.exponent with
  | [], none =>
      if whole.exponent = 0 then
        if !n.negative then some (integer whole.digits)
        else if whole.digits = 0 ∨ negativeLimit < whole.digits then
          some (withSign true (Float.ofNat whole.digits))
        else some (integer (-whole.digits))
      else (scale whole.digits whole.exponent).map (withSign n.negative)
  | fraction, exponent =>
      let s := whole.addFraction fraction
      match exponent with
      | none => (scale s.digits s.exponent).map (withSign n.negative)
      | some (down, digits) =>
          let written := digitsValue digits
          if exponentLimit < written then
            if s.digits ≠ 0 ∧ !down then none else some (withSign n.negative 0)
          else
            let exponent := if down then s.exponent - written else s.exponent + written
            (scale s.digits exponent).map (withSign n.negative)

end AskSql.Json
