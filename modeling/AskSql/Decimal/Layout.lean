import AskSql.Decimal.Numeral
import AskSql.Decimal.Shortest
import AskSql.Text.Search

/-!
How a floating-point number is written down.

Which digits are written follows from the number; where the point stands, when the exponent is split
off and how it looks are decisions of a format. A `Layout` holds these decisions, and one function
writes by them. In every format here a number in positional form has a digit on each side of the
point, so it never reads as an integer.

* `Layout.positional`, `Layout.scientific`: the two forms of a decimal.
* `Layout.magnitude`: the form that a format picks.
* `Layout.float`, `Layout.float32`: a number with its sign, zero and the numbers that are not
  finite.
* `Layout.rewrite?`: the same for a text in scientific notation, which is taken apart and written
  anew by steps that can fail.
-/

namespace AskSql.Decimal

/-- The decimal digits of a natural number, without leading zeros. -/
def digitsOf (n : Nat) : List Char :=
  Nat.toDigits 10 n

/-- The decisions of a format for floating-point numbers. The exponents are those of the leading
digit. -/
structure Layout where
  /-- The least exponent that is written positionally. -/
  positionalFrom : Int
  /-- The least exponent above those that are written positionally. -/
  positionalBelow : Int
  /-- What stands before an exponent that is not negative. -/
  plusSign : List Char
  /-- The least number of digits of an exponent. -/
  exponentWidth : Nat
  /-- Which of two equally close decimals is written. -/
  tie : Tie
  /-- How a number is written that is none. -/
  notANumber : List Char
  /-- How positive infinity is written. -/
  infinity : List Char

namespace Layout

/-- A decimal in positional form; `exponent` is that of the leading digit. -/
def positional (digits : List Char) (exponent : Int) : List Char :=
  if exponent < 0 then
    ['0', '.'] ++ List.replicate (-exponent - 1).toNat '0' ++ digits
  else
    let whole := exponent.toNat + 1
    if digits.length ≤ whole then
      digits ++ List.replicate (whole - digits.length) '0' ++ ['.', '0']
    else digits.take whole ++ ['.'] ++ digits.drop whole

/-- The digits with a point after the first, if there are more than one. -/
def mantissa : List Char → List Char
  | d :: e :: rest => d :: '.' :: e :: rest
  | digits => digits

/-- The digits of an exponent, filled up with zeros on the left. -/
def exponentDigits (width : Nat) (n : Nat) : List Char :=
  let digits := digitsOf n
  List.replicate (width - digits.length) '0' ++ digits

/-- A decimal with its exponent split off; `exponent` is that of the leading digit. -/
def scientific (layout : Layout) (digits : List Char) (exponent : Int) : List Char :=
  mantissa digits ++ ['e'] ++ (if exponent < 0 then ['-'] else layout.plusSign)
    ++ exponentDigits layout.exponentWidth exponent.natAbs

/-- The form that the format picks for the digits. -/
def form (layout : Layout) (digits : List Char) (exponent : Int) : List Char :=
  if layout.positionalFrom ≤ exponent ∧ exponent < layout.positionalBelow then
    positional digits exponent
  else layout.scientific digits exponent

/-- A positive binary number by the rules of the format. -/
def magnitude (layout : Layout) (x : Binary) : List Char :=
  let decimal := x.shortest layout.tie
  let digits := digitsOf decimal.digits
  layout.form digits (decimal.exponent + digits.length - 1)

/-- A number given by its sign and its magnitude, which is missing for zero. -/
def signed (layout : Layout) (negative : Bool) (x : Binary) : List Char :=
  (if negative then ['-'] else []) ++ (if x.m = 0 then ['0', '.', '0'] else layout.magnitude x)

/-- A number of 64 bits by the rules of the format. -/
def float (layout : Layout) (x : Float) : List Char :=
  let negative := x.toBits.toNat ≥ Binary.signBit64
  if x.isNaN then layout.notANumber
  else if x.isInf then (if negative then ['-'] else []) ++ layout.infinity
  else layout.signed negative (Binary.ofFloat x)

/-- A number of 32 bits by the rules of the format. -/
def float32 (layout : Layout) (x : Float32) : List Char :=
  let negative := x.toBits.toNat ≥ Binary.signBit32
  if x.isNaN then layout.notANumber
  else if x.isInf then (if negative then ['-'] else []) ++ layout.infinity
  else layout.signed negative (Binary.ofFloat32 x)

end Layout

/-! ### Steps that can fail -/

/-- Zeros, unless there are to be fewer than none. -/
def zeros? (n : Int) : Option (List Char) :=
  if 0 ≤ n then some (List.replicate n.toNat '0') else none

/-- The parts of a text before and behind a position, unless this is behind its end. -/
def cutAt? (position : Nat) (text : List Char) : Option (List Char × List Char) :=
  if position ≤ text.length then some (text.take position, text.drop position) else none

/-- The absolute value of an integer, unless it needs more than the 31 bits besides the sign. -/
def absolute? (i : Int) : Option Nat :=
  if i.natAbs < 0x80000000 then some i.natAbs else none

/-- Reads an integer of 32 bits, with or without a sign. -/
def readInteger? (s : List Char) : Option Int :=
  let (negative, s) := Numeral.readSign s
  match Numeral.takeDigits? s with
  | some (digits, []) =>
      let i : Int := if negative then -(digitsValue digits : Int) else digitsValue digits
      if -0x80000000 ≤ i ∧ i < 0x80000000 then some i else none
  | _ => none

namespace Layout

/-- Moves the point of digits by an exponent. -/
def positional? (digits : List Char) (exponent : Int) : Option (List Char) :=
  if exponent < 0 then do
    let zeros ← zeros? (-exponent - 1)
    return ['0', '.'] ++ zeros ++ digits
  else
    let whole := exponent.toNat + 1
    if digits.length ≤ whole then do
      let zeros ← zeros? ((whole : Int) - digits.length)
      return digits ++ zeros ++ ['.', '0']
    else do
      let (before, behind) ← cutAt? whole digits
      return before ++ ['.'] ++ behind

/-- Takes scientific notation apart: the sign, the mantissa and the exponent. What is no exponent
counts as zero. -/
def takeApart (text : List Char) : List Char × List Char × Int :=
  let (mantissa, exponent) := match Text.splitAtFirst ['e'] text with
    | some (mantissa, exponent) => (mantissa, (readInteger? exponent).getD 0)
    | none => (text, 0)
  match mantissa with
  | '-' :: mantissa => (['-'], mantissa, exponent)
  | mantissa => ([], mantissa, exponent)

/-- Rewrites scientific notation by the decisions of a format. -/
def rewrite? (layout : Layout) (text : List Char) : Option (List Char) :=
  let (sign, mantissa, exponent) := takeApart text
  if layout.positionalFrom ≤ exponent ∧ exponent < layout.positionalBelow then do
    let body ← positional? (mantissa.filter (· ≠ '.')) exponent
    return sign ++ body
  else do
    let size ← absolute? exponent
    return sign ++ mantissa ++ ['e'] ++ (if exponent < 0 then ['-'] else layout.plusSign)
      ++ exponentDigits layout.exponentWidth size

end Layout

end AskSql.Decimal
