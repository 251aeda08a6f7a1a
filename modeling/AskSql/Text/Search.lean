/-!
Searching a text for a pattern, from the left.

* `splitAtFirst`: what stands before and what stands after the first occurrence.
* `pieces`: the parts between successive occurrences, none overlapping another.
* `replaceAll`: the pieces joined by another text.

A text is a list of its characters here; whether a pattern occurs never depends on an encoding.
-/

namespace AskSql.Text

/-- Splits at the first occurrence of `pattern` into what stands before it and what follows it. -/
def splitAtFirst (pattern : List Char) : List Char → Option (List Char × List Char)
  | [] => if pattern.isEmpty then some ([], []) else none
  | c :: rest =>
      match pattern.isPrefixOf? (c :: rest) with
      | some after => some ([], after)
      | none => (splitAtFirst pattern rest).map fun parts => (c :: parts.1, parts.2)

/-- Whether `pattern` occurs in the text. -/
def occursIn (pattern text : List Char) : Bool :=
  (splitAtFirst pattern text).isSome

/-- The text up to the first occurrence of `pattern`, all of it if there is none. -/
def upToFirst (pattern text : List Char) : List Char :=
  match splitAtFirst pattern text with
  | some parts => parts.1
  | none => text

/-- The text after the first occurrence of `pattern`, all of it if there is none. -/
def afterFirst (pattern text : List Char) : List Char :=
  match splitAtFirst pattern text with
  | some parts => parts.2
  | none => text

/-- The parts of a text between successive occurrences of a pattern that is not empty. -/
def pieces (pattern text : List Char) : List (List Char) :=
  match splitAtFirst pattern text with
  | none => [text]
  | some (before, after) =>
      if after.length < text.length then before :: pieces pattern after else [text]
termination_by text.length

/-- Puts `replacement` in the place of every occurrence of `pattern`. -/
def replaceAll (pattern replacement text : List Char) : List Char :=
  List.intercalate replacement (pieces pattern text)

end AskSql.Text
