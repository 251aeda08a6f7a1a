import AskSql.Json.Number
import AskSql.Text.Hexadecimal

/-!
Reading JSON text.

A reader takes a value from the front of a text and gives back the rest, or fails. The grammar is
the strict one: no comments, no superfluous comma, no leading zero, no raw control character in a
text and no half of a surrogate pair.

* `Reader`: the readers, on the characters that remain.
* `readText`: a text and its escapes.
* `readList`: the items between brackets, for any reader of an item.
* `readValue`: any value, with a limit on how deep arrays and objects may stand in each other.
* `skipValue`: passes over a value without a limit and without evaluating what is in it.
* `parse`: a text that is one value and nothing else.
-/

namespace AskSql.Json

open AskSql.Decimal

/-- Takes a value from the front of a text. -/
abbrev Reader (α : Type) := List Char → Option (α × List Char)

/-! ### Blanks, texts and their escapes -/

/-- Whether a character may stand between the tokens. -/
def isSpace (c : Char) : Bool := c = ' ' || c = '\n' || c = '\t' || c = '\r'

/-- The text after the blanks at its front. -/
def skipSpace (s : List Char) : List Char := s.dropWhile isSpace

/-- Reads four hexadecimal digits. -/
def readHex : Reader Nat
  | a :: b :: c :: d :: rest => do
      let a ← Text.hexValue a
      let b ← Text.hexValue b
      let c ← Text.hexValue c
      let d ← Text.hexValue d
      return (((a * 16 + b) * 16 + c) * 16 + d, rest)
  | _ => none

/-- The character of a short escape. -/
def shortEscape (c : Char) : Option Char :=
  if c = '"' ∨ c = '\\' ∨ c = '/' then some c
  else if c = 'b' then some '\x08'
  else if c = 'f' then some '\x0C'
  else if c = 'n' then some '\n'
  else if c = 'r' then some '\r'
  else if c = 't' then some '\t'
  else none

/-- Reads the character that follows a backslash and a `u`: a number, or a pair of surrogates. -/
def readUnicodeEscape (s : List Char) : Option (Char × List Char) := do
  let (n, s) ← readHex s
  if 0xDC00 ≤ n ∧ n ≤ 0xDFFF then none
  else if 0xD800 ≤ n ∧ n ≤ 0xDBFF then
    match s with
    | '\\' :: 'u' :: s => do
        let (low, s) ← readHex s
        if 0xDC00 ≤ low ∧ low ≤ 0xDFFF then
          return (Char.ofNat ((n - 0xD800) * 0x400 + (low - 0xDC00) + 0x10000), s)
        else none
    | _ => none
  else return (Char.ofNat n, s)

/-- Reads one character of a text that is not its closing quote. -/
def readChar (c : Char) (rest : List Char) : Option (Char × List Char) :=
  if c = '\\' then
    match rest with
    | 'u' :: rest => readUnicodeEscape rest
    | c :: rest => (shortEscape c).map fun c => (c, rest)
    | [] => none
  else if c.toNat < 0x20 then none
  else some (c, rest)

/-- Reads a text after its opening quote, one step for each character at most. -/
def readTextBody : Nat → Reader (List Char)
  | 0, _ => none
  | _ + 1, [] => none
  | n + 1, c :: rest =>
      if c = '"' then some ([], rest)
      else do
        let (c, rest) ← readChar c rest
        let (body, rest) ← readTextBody n rest
        return (c :: body, rest)

/-- Reads a text. -/
def readText (s : List Char) : Option (String × List Char) :=
  match skipSpace s with
  | '"' :: rest => (readTextBody rest.length rest).map fun read => (String.ofList read.1, read.2)
  | _ => none

/-- Passes over a text after its opening quote: the escapes are checked by their form alone. -/
def skipTextBody : Nat → Reader Unit
  | 0, _ => none
  | _ + 1, [] => none
  | n + 1, c :: rest =>
      if c = '"' then some ((), rest)
      else if c = '\\' then
        match rest with
        | 'u' :: rest => (readHex rest).bind fun read => skipTextBody n read.2
        | c :: rest => (shortEscape c).bind fun _ => skipTextBody n rest
        | [] => none
      else if c.toNat < 0x20 then none
      else skipTextBody n rest

/-- Passes over a text. -/
def skipText (s : List Char) : Option (Unit × List Char) :=
  match skipSpace s with
  | '"' :: rest => skipTextBody rest.length rest
  | _ => none

/-! ### Lists between brackets -/

/-- Reads items with commas between them up to the closing bracket, at least one and at most `n`. -/
def readItems {α : Type} (close : Char) (item : Reader α) : Nat → Reader (List α)
  | 0, _ => none
  | n + 1, s => do
      let (x, s) ← item s
      match skipSpace s with
      | [] => none
      | c :: s =>
          if c = ',' then do
            let (xs, s) ← readItems close item n s
            return (x :: xs, s)
          else if c = close then return ([x], s)
          else none

/-- Reads the items after an opening bracket, up to the closing one. -/
def readList {α : Type} (close : Char) (item : Reader α) (s : List Char) :
    Option (List α × List Char) :=
  match skipSpace s with
  | [] => none
  | c :: rest => if c = close then some ([], rest) else readItems close item s.length s

/-- Reads a member of an object: a key, a colon and a value. -/
def readMember {κ α : Type} (key : Reader κ) (value : Reader α) (s : List Char) :
    Option ((κ × α) × List Char) := do
  let (k, s) ← key s
  match skipSpace s with
  | ':' :: s => do
      let (v, s) ← value s
      return ((k, v), s)
  | _ => none

/-! ### Values -/

/-- Passes over a word. -/
def readWord (word : List Char) (s : List Char) : Option (Unit × List Char) :=
  (word.isPrefixOf? s).map fun rest => ((), rest)

/-- Reads a number. -/
def readNumber (s : List Char) : Option (Json × List Char) := do
  let (n, s) ← Numeral.read (skipSpace s)
  let value ← ofNumeral n
  return (value, s)

/-- Reads a value by its first character; arrays and objects through `inner`, if they may stand
here. -/
def readOne (inner : Option (Reader Json)) (s : List Char) : Option (Json × List Char) :=
  match skipSpace s with
  | [] => none
  | c :: rest =>
      if c = '"' then (readText (c :: rest)).map fun read => (text read.1, read.2)
      else if c = 'n' then (readWord ['u', 'l', 'l'] rest).map fun read => (null, read.2)
      else if c = 't' then (readWord ['r', 'u', 'e'] rest).map fun read => (bool true, read.2)
      else if c = 'f' then (readWord ['a', 'l', 's', 'e'] rest).map fun read => (bool false, read.2)
      else if c = '[' then do
        let inner ← inner
        let (items, rest) ← readList ']' inner rest
        return (array items, rest)
      else if c = '\x7b' then do
        let inner ← inner
        let (members, rest) ← readList '\x7d' (readMember readText inner) rest
        return (ofDictionary (Dictionary.ofList members), rest)
      else readNumber (c :: rest)

/-- Reads a value in which at most `depth` arrays and objects stand in each other. -/
def readValue : Nat → Reader Json
  | 0 => readOne none
  | depth + 1 => readOne (some (readValue depth))

/-- Passes over a value by its first character; what is in it through `inner`. -/
def skipOne (inner : Reader Unit) (s : List Char) : Option (Unit × List Char) :=
  match skipSpace s with
  | [] => none
  | c :: rest =>
      if c = '"' then skipText (c :: rest)
      else if c = 'n' then readWord ['u', 'l', 'l'] rest
      else if c = 't' then readWord ['r', 'u', 'e'] rest
      else if c = 'f' then readWord ['a', 'l', 's', 'e'] rest
      else if c = '[' then (readList ']' inner rest).map fun read => ((), read.2)
      else if c = '\x7b' then
        (readList '\x7d' (readMember skipText inner) rest).map fun read => ((), read.2)
      else (Numeral.read (c :: rest)).map fun read => ((), read.2)

/-- Passes over a value with at most `n` arrays and objects in each other. -/
def skipNested : Nat → Reader Unit
  | 0 => fun _ => none
  | n + 1 => skipOne (skipNested n)

/-- Passes over a value: a text cannot open more brackets than it has characters. -/
def skipValue (s : List Char) : Option (Unit × List Char) := skipNested (s.length + 1) s

/-- How deep arrays and objects may stand in each other. -/
def depthLimit : Nat := 127

/-- The whole text by a reader, with nothing but blanks after it. -/
def readAll {α : Type} (reader : Reader α) (s : List Char) : Option α := do
  let (x, rest) ← reader s
  if skipSpace rest = [] then return x else none

/-- A text that is one value. -/
def parse (s : String) : Option Json := readAll (readValue depthLimit) s.toList

end AskSql.Json
