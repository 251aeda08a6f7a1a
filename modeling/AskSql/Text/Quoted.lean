import AskSql.Text.Hexadecimal

/-!
Texts and bytes between quotes, as they stand in the rendered rows of a query.

A text is put between single quotes, or between double quotes when it holds a single quote and no
double one. Inside, a backslash, the quote in use and the characters for a new line, a carriage
return and a tab are escaped by a backslash. Bytes are written as visible ASCII characters, the
others by escapes of their own.

* `quoteFor`: the quote that a text is written with.
* `quote`: the text between its quotes.
* `unquote`: reads a quoted text from the front of a longer one.
* `escapeByte`, `escapeBytes`: bytes as ASCII text.
-/

namespace AskSql.Text

/-- The quote that a text is written with. -/
def quoteFor (text : List Char) : Char :=
  if text.contains '\'' && !text.contains '"' then '"' else '\''

/-- One character between quotes. -/
def escapeChar (quote c : Char) : List Char :=
  if c = '\\' then ['\\', '\\']
  else if c = '\n' then ['\\', 'n']
  else if c = '\r' then ['\\', 'r']
  else if c = '\t' then ['\\', 't']
  else if c = quote then ['\\', c]
  else [c]

/-- The text between its quotes. -/
def quote (text : List Char) : List Char :=
  let q := quoteFor text
  q :: text.flatMap (escapeChar q) ++ [q]

/-- The character that stands after an escaping backslash. -/
def unescapeChar (c : Char) : Char :=
  if c = 'n' then '\n' else if c = 'r' then '\r' else if c = 't' then '\t' else c

/-- Reads up to the first unescaped quote: the text, its escapes undone, and what follows the
quote. -/
def unquoteBody (quote : Char) : List Char → Option (List Char × List Char)
  | [] => none
  | '\\' :: c :: rest =>
      (unquoteBody quote rest).map fun read => (unescapeChar c :: read.1, read.2)
  | c :: rest =>
      if c = quote then some ([], rest)
      else (unquoteBody quote rest).map fun read => (c :: read.1, read.2)

/-- Reads a quoted text from the front: the text and what follows its closing quote. -/
def unquote : List Char → Option (List Char × List Char)
  | '\'' :: rest => unquoteBody '\'' rest
  | '"' :: rest => unquoteBody '"' rest
  | _ => none

/-! ### Bytes -/

/-- One byte as ASCII text. -/
def escapeByte (b : UInt8) : List Char :=
  let n := b.toNat
  if n = '\t'.toNat then ['\\', 't']
  else if n = '\r'.toNat then ['\\', 'r']
  else if n = '\n'.toNat then ['\\', 'n']
  else if n = '\''.toNat ∨ n = '"'.toNat ∨ n = '\\'.toNat then ['\\', Char.ofNat n]
  else if 0x20 ≤ n ∧ n < 0x7F then [Char.ofNat n]
  else ['\\', 'x', hexDigit (n / 16), hexDigit (n % 16)]

/-- Bytes as ASCII text. -/
def escapeBytes (bytes : List UInt8) : List Char :=
  bytes.flatMap escapeByte

end AskSql.Text
