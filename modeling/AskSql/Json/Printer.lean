import AskSql.Decimal.Layout
import AskSql.Json.Value
import AskSql.Text.Hexadecimal

/-!
Writing JSON text.

The text is compact, without blanks between the tokens. In a text only the quote, the backslash
and the control characters are escaped. A number that is not finite is written as null.

* `layout`, `layout32`: how floating-point numbers of 64 and of 32 bits are written.
* `writeText`: a text between quotes.
* `write`: a value.
-/

namespace AskSql.Json

open AskSql.Decimal

/-- Numbers of 64 bits are positional from 10^-5 to below 10^16; the exponent has a sign and no
superfluous zero, and a tie goes to the even digit. -/
def layout : Layout where
  positionalFrom := -5
  positionalBelow := 16
  plusSign := ['+']
  exponentWidth := 1
  tie := .even
  notANumber := ['n', 'u', 'l', 'l']
  infinity := ['n', 'u', 'l', 'l']

/-- Numbers of 32 bits are positional from 10^-6 to below 10^13. -/
def layout32 : Layout := { layout with positionalFrom := -6, positionalBelow := 13 }

/-- A number of 64 bits. -/
def writeFloat (x : Float) : List Char :=
  if x.isNaN || x.isInf then ['n', 'u', 'l', 'l'] else layout.float x

/-- A number of 32 bits. -/
def writeFloat32 (x : Float32) : List Char :=
  if x.isNaN || x.isInf then ['n', 'u', 'l', 'l'] else layout32.float32 x

/-- An integer. -/
def writeInteger : Int → List Char
  | .ofNat n => digitsOf n
  | .negSucc n => '-' :: digitsOf (n + 1)

/-- One character of a text. -/
def escape (c : Char) : List Char :=
  if c = '"' then ['\\', '"']
  else if c = '\\' then ['\\', '\\']
  else if c = '\x08' then ['\\', 'b']
  else if c = '\x0C' then ['\\', 'f']
  else if c = '\n' then ['\\', 'n']
  else if c = '\r' then ['\\', 'r']
  else if c = '\t' then ['\\', 't']
  else if c.toNat < 0x20 then
    ['\\', 'u', '0', '0', Text.hexDigit (c.toNat / 16), Text.hexDigit (c.toNat % 16)]
  else [c]

/-- A text between quotes. -/
def writeText (s : String) : List Char :=
  '"' :: s.toList.flatMap escape ++ ['"']

/-- A member of an object, its value written already. -/
def writeMember (key : String) (value : List Char) : List Char :=
  writeText key ++ ':' :: value

/-- Parts with commas between them. -/
def writeCommas : List (List Char) → List Char
  | [] => []
  | [part] => part
  | part :: next :: parts => part ++ ',' :: writeCommas (next :: parts)

/-- Parts between square brackets. -/
def writeArray (parts : List (List Char)) : List Char :=
  '[' :: writeCommas parts ++ [']']

/-- Members between curly brackets. -/
def writeObject (members : List (List Char)) : List Char :=
  '\x7b' :: writeCommas members ++ ['\x7d']

/-- A value, or null if there is none. -/
def writeOptional {α : Type} (writer : α → List Char) : Option α → List Char
  | none => ['n', 'u', 'l', 'l']
  | some x => writer x

mutual

/-- A value as JSON text. -/
def write : Json → List Char
  | null => ['n', 'u', 'l', 'l']
  | bool true => ['t', 'r', 'u', 'e']
  | bool false => ['f', 'a', 'l', 's', 'e']
  | integer n => writeInteger n
  | real x => writeFloat x
  | text s => writeText s
  | array items => writeArray (writeItems items)
  | object members => writeObject (writeMembers members)

/-- The items of an array, each as JSON text. -/
def writeItems : List Json → List (List Char)
  | [] => []
  | item :: items => write item :: writeItems items

/-- The members of an object, each as JSON text. -/
def writeMembers : List (String × Json) → List (List Char)
  | [] => []
  | (key, value) :: members => writeMember key (write value) :: writeMembers members

end

/-- A value as JSON text. -/
def toText (value : Json) : String := String.ofList value.write

end AskSql.Json
