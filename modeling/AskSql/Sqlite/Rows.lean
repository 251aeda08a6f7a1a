import AskSql.Database
import AskSql.Text.Quoted
import AskSql.Text.Shortened
import AskSql.Text.Utf8

/-!
Results of statements and how they are shown.

A result is shown twice: as one text, with the rows as tuples in square brackets, and as
metadata, with the rows as JSON arrays. A tuple of one cell ends with a comma. A long text is
shortened in both.

* `Cell`: the values a column can hold.
* `Cell.render`, `Cell.toJson`: a cell as text and as JSON.
* `ResultSet`: what a statement yields.
* `ResultSet.execution`: both ways of showing it.
-/

namespace AskSql.Sqlite

/-- A value in a row. The bytes of a text need not be valid. -/
inductive Cell where
  | null
  | integer (value : Int64)
  | real (value : Float)
  | text (bytes : List UInt8)
  | blob (bytes : List UInt8)

namespace Cell

/-- Numbers in a row are positional from 10^-4 to below 10^16; the exponent has a sign and two
digits or more, and a tie goes up. -/
def layout : Decimal.Layout where
  positionalFrom := -4
  positionalBelow := 16
  plusSign := ['+']
  exponentWidth := 2
  tie := .up
  notANumber := ['n', 'a', 'n']
  infinity := ['i', 'n', 'f']

/-- The text in a cell: its bytes as text, shortened if they are more than the limit. -/
def shownText (limit : Nat) (bytes : List UInt8) : List Char :=
  Text.shorten limit (Text.Utf8.decode bytes)

/-- A cell as text. -/
def render (limit : Nat) : Cell → List Char
  | null => ['N', 'o', 'n', 'e']
  | integer n => Json.writeInteger n.toInt
  | real x => layout.float x
  | text bytes => Text.quote (shownText limit bytes)
  | blob bytes => ['b', '\''] ++ Text.escapeBytes bytes ++ ['\'']

/-- A cell as JSON; a number that is not finite is null. -/
def toJson (limit : Nat) : Cell → Json
  | null => .null
  | integer n => .integer n.toInt
  | real x => if x.isNaN || x.isInf then .null else .real x
  | text bytes => .text (String.ofList (shownText limit bytes))
  | blob bytes => .text (String.ofList (Text.escapeBytes bytes))

end Cell

/-- What stands between cells and between rows. -/
def separator : List Char := [',', ' ']

/-- The cells of a row, each as text, as a tuple. -/
def tuple : List (List Char) → List Char
  | [cell] => '(' :: cell ++ [',', ')']
  | cells => '(' :: List.intercalate separator cells ++ [')']

/-- What a statement yields. -/
inductive ResultSet where
  /-- Nothing: the statement has no result columns. -/
  | none
  | rows (columns : List String) (rows : List (List Cell))

namespace ResultSet

/-- Rows as one text. -/
def renderRows (limit : Nat) (rows : List (List Cell)) : List Char :=
  let tuples := rows.map fun row => tuple (row.map (Cell.render limit))
  '[' :: List.intercalate separator tuples ++ [']']

/-- Rows as a JSON array of arrays. -/
def rowsToJson (limit : Nat) (rows : List (List Cell)) : Json :=
  .array (rows.map fun row => .array (row.map (Cell.toJson limit)))

/-- Both ways of showing a result. -/
def execution (limit : Nat) : ResultSet → Execution
  | none => ⟨"", .empty⟩
  | rows columns cells =>
      ⟨String.ofList (renderRows limit cells),
        .ofList [("result", rowsToJson limit cells), ("col_keys", .array (columns.map .text))]⟩

end ResultSet

end AskSql.Sqlite
