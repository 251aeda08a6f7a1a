/-!
Long texts shortened at a word boundary.

A text longer than the limit is cut to leave room for three dots, then back to the last space of
what is left, if it has one. A limit of zero means that there is none. Below four characters the
dots alone remain, so the shortened text is then longer than a limit of one or two.
-/

namespace AskSql.Text

/-- What a shortened text ends with. -/
def ellipsis : List Char := ['.', '.', '.']

/-- The text before its last space, all of it if it has none. -/
def beforeLastSpace (text : List Char) : List Char :=
  match text.reverse.dropWhile (· != ' ') with
  | [] => text
  | _ :: before => before.reverse

/-- The text, shortened if it is longer than a limit other than zero. -/
def shorten (limit : Nat) (text : List Char) : List Char :=
  if limit = 0 ∨ text.length ≤ limit then text
  else beforeLastSpace (text.take (limit - ellipsis.length)) ++ ellipsis

end AskSql.Text
