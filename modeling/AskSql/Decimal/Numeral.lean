import AskSql.Decimal.Nearest

/-!
Decimal numerals as they are written: a sign, digits, a fraction and an exponent.

* `Numeral`: the parts of a numeral.
* `Numeral.read`: reads one from the front of a text, by the strict grammar in which a number starts
  with no superfluous zero, and a point and an exponent mark are followed by digits.
* `digitsValue`: the number that digits stand for.
-/

namespace AskSql.Decimal

/-- The number that a digit stands for. -/
def digitValue (c : Char) : Nat := c.toNat - '0'.toNat

/-- The number that digits stand for, the leading one first. -/
def digitsValue (digits : List Char) : Nat :=
  digits.foldl (fun n c => 10 * n + digitValue c) 0

/-- The parts of a numeral. -/
structure Numeral where
  negative : Bool
  whole : List Char
  /-- The digits after the point, none if there is no point. -/
  fraction : List Char
  /-- The sign of the exponent, true for minus, and its digits. -/
  exponent : Option (Bool × List Char)
deriving DecidableEq, Repr

namespace Numeral

/-- Takes the digits from the front of a text. -/
def takeDigits (s : List Char) : List Char × List Char :=
  (s.takeWhile Char.isDigit, s.dropWhile Char.isDigit)

/-- Takes digits from the front of a text, at least one. -/
def takeDigits? (s : List Char) : Option (List Char × List Char) :=
  match takeDigits s with
  | ([], _) => none
  | taken => some taken

/-- The whole part: a single zero, or digits that do not start with one. -/
def readWhole : List Char → Option (List Char × List Char)
  | '0' :: rest => some (['0'], rest)
  | s => takeDigits? s

/-- The fraction, if there is a point. -/
def readFraction : List Char → Option (List Char × List Char)
  | '.' :: rest => takeDigits? rest
  | s => some ([], s)

/-- The sign of an exponent, true for minus. -/
def readSign : List Char → Bool × List Char
  | '+' :: rest => (false, rest)
  | '-' :: rest => (true, rest)
  | s => (false, s)

/-- The exponent, if there is a mark. -/
def readExponent (s : List Char) : Option (Option (Bool × List Char) × List Char) :=
  match s with
  | [] => some (none, [])
  | c :: rest =>
      if c = 'e' ∨ c = 'E' then
        let sign := readSign rest
        (takeDigits? sign.2).map fun taken => (some (sign.1, taken.1), taken.2)
      else some (none, s)

/-- Reads a numeral from the front of a text. -/
def read (s : List Char) : Option (Numeral × List Char) := do
  let (negative, s) := match s with
    | '-' :: rest => (true, rest)
    | _ => (false, s)
  let (whole, s) ← readWhole s
  let (fraction, s) ← readFraction s
  let (exponent, s) ← readExponent s
  return (⟨negative, whole, fraction, exponent⟩, s)

/-- The exponent of ten that is written out, zero if there is none. -/
def writtenExponent (n : Numeral) : Int :=
  match n.exponent with
  | none => 0
  | some (negative, digits) => if negative then -(digitsValue digits : Int) else digitsValue digits

/-- The number of 64 bits nearest to the numeral; the smallest and largest exponents are cut off
where nothing but zero and infinity is left. -/
def toFloat (n : Numeral) : Float :=
  let exponent := n.writtenExponent - n.fraction.length
  let digits := digitsValue (n.whole ++ n.fraction)
  let size : Int := digits.log2 + 1
  let magnitude :=
    if digits = 0 ∨ exponent + size < -400 then 0
    else if 400 < exponent then nearest (Nat.pow 10 400) 1
    else nearest (digits * Nat.pow 10 exponent.toNat) (Nat.pow 10 (-exponent).toNat)
  if n.negative then -magnitude else magnitude

end Numeral

end AskSql.Decimal
