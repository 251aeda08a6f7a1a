/-!
Templates of prompts.

A template is a text in which `{name}` stands for the value of a variable and a doubled brace for
a single one. A name starts with a letter or an underscore and goes on with letters, digits and
underscores, all of ASCII; a brace that belongs to none of these forms stands for itself. A value
that is put in is not read again.

* `Token`: a character to be copied or a variable.
* `scan`: the tokens of a template, read from left to right.
* `Segment`, `write`: a template put together from texts and variables.
-/

namespace AskSql.Template

/-- A character to be copied, or a variable to be replaced. -/
inductive Token where
  | char (c : Char)
  | slot (name : List Char)
deriving DecidableEq, Repr

/-- Whether a name may start with a character. -/
def isNameStart (c : Char) : Bool := c.isAlpha || c = '_'

/-- Whether a name may go on with a character. -/
def isNamePart (c : Char) : Bool := isNameStart c || c.isDigit

/-- Whether a text is a name. -/
def isName : List Char → Bool
  | [] => false
  | c :: rest => isNameStart c && rest.all isNamePart

/-- Reads a name and the brace that closes it. -/
def readName (s : List Char) : Option (List Char × List Char) :=
  match s.dropWhile isNamePart with
  | '\x7d' :: rest =>
      if isName (s.takeWhile isNamePart) then some (s.takeWhile isNamePart, rest) else none
  | _ => none

/-- A name is taken from the front. -/
theorem readName_length_le {s name rest : List Char} (h : readName s = some (name, rest)) :
    rest.length ≤ s.length := by
  unfold readName at h
  have hdrop := (List.dropWhile_suffix (l := s) isNamePart).length_le
  split at h
  · next after heq =>
      split at h
      · obtain rfl : after = rest := by simp_all
        rw [heq] at hdrop
        exact Nat.le_of_succ_le hdrop
      · cases h
  · cases h

/-- The token that starts with the character `c`, and the text after it. -/
def scanOne (c : Char) (rest : List Char) : Token × List Char :=
  if c = '\x7b' then
    match rest with
    | '\x7b' :: after => (.char c, after)
    | _ =>
        match readName rest with
        | some (name, after) => (.slot name, after)
        | none => (.char c, rest)
  else if c = '\x7d' then
    match rest with
    | '\x7d' :: after => (.char c, after)
    | _ => (.char c, rest)
  else (.char c, rest)

/-- A token is taken from the front. -/
theorem scanOne_length_le (c : Char) (rest : List Char) :
    (scanOne c rest).2.length ≤ rest.length := by
  unfold scanOne
  split
  · split
    · exact Nat.le_succ _
    · split
      · next h => exact readName_length_le h
      · exact Nat.le_refl _
  · split
    · split
      · exact Nat.le_succ _
      · exact Nat.le_refl _
    · exact Nat.le_refl _

/-- The tokens of a template. -/
def scan : List Char → List Token
  | [] => []
  | c :: rest => (scanOne c rest).1 :: scan (scanOne c rest).2
termination_by s => s.length
decreasing_by exact Nat.lt_succ_of_le (scanOne_length_le c rest)

/-- The names of the variables among tokens, in order of appearance. -/
def variableNames (tokens : List Token) : List String :=
  tokens.filterMap fun
    | .char _ => none
    | .slot name => some (String.ofList name)

/-- The text of tokens, each variable replaced by its value. -/
def fill (value : String → List Char) (tokens : List Token) : List Char :=
  tokens.flatMap fun
    | .char c => [c]
    | .slot name => value (String.ofList name)

/-! ### Putting templates together -/

/-- A part of a template: a text that stands for itself, or a variable. -/
inductive Segment where
  | text (s : String)
  | slot (name : String)
deriving DecidableEq, Repr

/-- A character of a text that stands for itself. -/
def escape (c : Char) : List Char :=
  if c = '\x7b' ∨ c = '\x7d' then [c, c] else [c]

/-- A part as it is written in a template. -/
def Segment.write : Segment → List Char
  | text s => s.toList.flatMap escape
  | slot name => '\x7b' :: name.toList ++ ['\x7d']

/-- The template of parts. -/
def write (segments : List Segment) : String :=
  String.ofList (segments.flatMap Segment.write)

end AskSql.Template
