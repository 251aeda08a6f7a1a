/-!
Blank characters and trimming.

A character is blank when it has the White_Space property. Control characters such as U+001C and
the invisible U+200B and U+FEFF are not blank.

* `isBlank`: the table of the property.
* `trim`: a text without its blank characters at both ends.
* `trimEnds`: the same for any class of characters.
-/

namespace AskSql.Text

/-- The ranges of the White_Space property, both ends included. -/
def blankRanges : List (Nat × Nat) :=
  [(0x09, 0x0D), (0x20, 0x20), (0x85, 0x85), (0xA0, 0xA0), (0x1680, 0x1680), (0x2000, 0x200A),
    (0x2028, 0x2029), (0x202F, 0x202F), (0x205F, 0x205F), (0x3000, 0x3000)]

/-- Whether a character has the White_Space property. -/
def isBlank (c : Char) : Bool :=
  blankRanges.any fun range => range.1 ≤ c.toNat && c.toNat ≤ range.2

/-- The text without the characters of a class at its end. -/
def trimEnd (p : Char → Bool) (text : List Char) : List Char :=
  (text.reverse.dropWhile p).reverse

/-- The text without the characters of a class at both ends. -/
def trimEnds (p : Char → Bool) (text : List Char) : List Char :=
  trimEnd p (text.dropWhile p)

/-- The text without blank characters at both ends. -/
def trim (text : List Char) : List Char :=
  trimEnds isBlank text

end AskSql.Text
