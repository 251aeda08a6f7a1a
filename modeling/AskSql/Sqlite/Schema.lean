import AskSql.Failure

/-!
What SQLite tells about its tables.

SQLite is asked for three things: the names of the tables, the columns of a table, and its foreign
keys. What it answers is not made here; a schema is whatever it answers, failures included. It is
asked for the names that a pattern does not match, and a table is named by a quoted identifier.

* `ColumnRow`, `KeyRow`: a row about a column, and one about a column of a foreign key.
* `Schema`: the answers.
* `quoteIdentifier`: a name as it is written into a question.
* `structureText`: the structure of a table as one line of text.
-/

namespace AskSql.Sqlite

/-- A row about a column. -/
structure ColumnRow where
  name : String
  type : String

/-- A row about a column of a foreign key. -/
structure KeyRow where
  /-- The table that is referred to. -/
  table : String
  column : String
  /-- The column that is referred to, missing if the primary key is meant. -/
  target : Option String

/-- What SQLite answers about its tables. -/
structure Schema where
  /-- The rows of `SELECT name FROM sqlite_master WHERE type = 'table' AND name NOT LIKE pattern
  ORDER BY name`, by the pattern. -/
  names : String → Except Failure (List String)
  /-- The rows of `PRAGMA table_info(identifier)`, by the identifier. -/
  columns : String → Except Failure (List ColumnRow)
  /-- The rows of `PRAGMA foreign_key_list(identifier)`, by the identifier. -/
  foreignKeys : String → Except Failure (List KeyRow)

/-- The answers if every question fails. -/
def Schema.failing (failure : Failure) : Schema where
  names _ := .error failure
  columns _ := .error failure
  foreignKeys _ := .error failure

/-- The pattern of the names that are hidden. -/
def hiddenPattern : String := "sqlite_%"

/-- A character within a quoted identifier; a quotation mark is written twice. -/
def quoteChar (c : Char) : List Char := if c = '"' then ['"', '"'] else [c]

/-- A name as an identifier. -/
def quoteIdentifier (name : String) : String :=
  String.ofList ('"' :: name.toList.flatMap quoteChar ++ ['"'])

/-- A column as it is shown. -/
def ColumnRow.text (row : ColumnRow) : String := row.name ++ " (" ++ row.type ++ ")"

/-- A column of a foreign key as it is shown. -/
def KeyRow.text (row : KeyRow) : String :=
  row.column ++ " -> " ++ row.table ++ "." ++ row.target.getD ""

/-- The structure of a table. -/
def structureText (name : String) (columns : List ColumnRow) (keys : List KeyRow) : String :=
  "Table '" ++ name ++ "' has columns: " ++ commaList (columns.map ColumnRow.text)
    ++ ", and foreign keys: " ++ commaList (keys.map KeyRow.text) ++ "."

end AskSql.Sqlite
