import AskSql.Sqlite.Schema

/-!
Tables that are known, and what SQLite answers about them.

Names are listed in an order of the database, without those that a pattern matches: in a pattern the
percent sign stands for any text, the underscore for any one character, and the case of ASCII
letters does not count. An identifier is a name between quotation marks. It is looked for among the
temporary tables first, then among the others, and the case of ASCII letters does not count there
either; about a name that there is no table of, there are no rows.

A foreign key names the columns of its own table in any case of ASCII letters, and they are shown
as the table declares them; the table and the columns it refers to are shown as the key names
them. The key that was declared last comes first. A standard type is shown in capitals, any other
type as it was declared.

* `sameName`: equality up to the case of ASCII letters.
* `Mark`, `marks`, `likes`: patterns, and the texts that they match.
* `readIdentifier`: the name that an identifier stands for.
* `TableRows`, `resolve`: a table with the rows about it, and the table that a name stands for.
* `Schema.ofTables`: the answers about some tables.
* `TableDefinition`, `ForeignKey`, `TableDefinition.rows`: a table as it was declared, and the rows
  about it.
-/

namespace AskSql.Sqlite

/-! ### Names -/

/-- The letters of a name without the case of ASCII letters. -/
def folded (name : String) : List Char := name.toList.map Char.toLower

/-- Whether two names are equal up to the case of ASCII letters. -/
def sameName (a b : String) : Bool := folded a == folded b

/-! ### Patterns -/

/-- A character of a pattern. -/
inductive Mark where
  /-- Stands for any text. -/
  | anyText
  /-- Stands for any one character. -/
  | anyChar
  /-- Stands for itself in either case, if it is an ASCII letter. -/
  | letter (c : Char)
deriving DecidableEq

/-- What a character of a pattern stands for. -/
def Mark.ofChar (c : Char) : Mark :=
  if c = '%' then anyText else if c = '_' then anyChar else letter c

/-- A pattern as it is written. -/
def marks (pattern : String) : List Mark := pattern.toList.map Mark.ofChar

/-- Whether a pattern matches a text from end to end. -/
def likes : List Mark → List Char → Bool
  | [], s => s.isEmpty
  | .anyText :: rest, s => (List.range (s.length + 1)).any fun n => likes rest (s.drop n)
  | .anyChar :: _, [] => false
  | .anyChar :: rest, _ :: s => likes rest s
  | .letter _ :: _, [] => false
  | .letter a :: rest, c :: s => a.toLower == c.toLower && likes rest s

/-! ### Identifiers -/

/-- The rest of an identifier after the first quotation mark, up to the last one. -/
def readQuoted : List Char → Option (List Char)
  | [] => none
  | ['"'] => some []
  | '"' :: '"' :: rest => (readQuoted rest).map ('"' :: ·)
  | c :: rest => if c = '"' then none else (readQuoted rest).map (c :: ·)

/-- The name that an identifier between quotation marks stands for. -/
def readIdentifier (identifier : String) : Option String :=
  match identifier.toList with
  | '"' :: rest => (readQuoted rest).map String.ofList
  | _ => none

/-! ### Tables -/

/-- A table with the rows about it. -/
structure TableRows where
  name : String
  columns : List ColumnRow
  keys : List KeyRow

/-- The table that a name stands for. -/
def resolve (temporary main : List TableRows) (name : String) : Option TableRows :=
  (temporary ++ main).find? fun table => sameName table.name name

/-- What is answered about the table of an identifier. -/
def aboutTable {α : Type} (temporary main : List TableRows) (rows : TableRows → List α)
    (identifier : String) : Except Failure (List α) :=
  match readIdentifier identifier with
  | some name => .ok (((resolve temporary main name).map rows).getD [])
  | none => .error (.database (.reported ("near \"" ++ identifier ++ "\": syntax error")))

/-- The answers about some tables; `before` is the order of their names. -/
def Schema.ofTables (main : List TableRows) (temporary : List TableRows := [])
    (before : String → String → Bool := fun a b => a ≤ b) : Schema where
  names pattern :=
    let names := (main.map (·.name)).filter fun name => !likes (marks pattern) name.toList
    .ok (names.mergeSort before)
  columns := aboutTable temporary main (·.columns)
  foreignKeys := aboutTable temporary main (·.keys)

/-! ### Declarations -/

/-- A foreign key as it was declared. -/
structure ForeignKey where
  columns : List String
  table : String
  /-- The columns referred to, missing if the primary key is meant. -/
  targets : Option (List String)

/-- A table as it was declared. -/
structure TableDefinition where
  name : String
  /-- The columns and their types. -/
  columns : List (String × String)
  foreignKeys : List ForeignKey

/-- The types that are known by their names. -/
def standardTypes : List String := ["ANY", "BLOB", "INT", "INTEGER", "REAL", "TEXT"]

/-- The type of a column as it is shown, a standard type in capitals. -/
def shownType (declared : String) : String :=
  (standardTypes.find? (sameName declared)).getD declared

/-- A column as the table declares it, given in any case of ASCII letters. -/
def TableDefinition.declaredName (table : TableDefinition) (column : String) : String :=
  ((table.columns.map (·.1)).find? (sameName column)).getD column

/-- The columns that a key refers to, each missing if the primary key is meant. -/
def ForeignKey.targetColumns (key : ForeignKey) : List (Option String) :=
  match key.targets with
  | some targets => targets.map some
  | none => key.columns.map fun _ => none

/-- One row for each column of a key. -/
def TableDefinition.keyRows (table : TableDefinition) (key : ForeignKey) : List KeyRow :=
  (key.columns.zip key.targetColumns).map fun pair =>
    ⟨key.table, table.declaredName pair.1, pair.2⟩

/-- The rows about a table. -/
def TableDefinition.rows (table : TableDefinition) : TableRows where
  name := table.name
  columns := table.columns.map fun column => ⟨column.1, shownType column.2⟩
  keys := table.foreignKeys.reverse.flatMap table.keyRows

end AskSql.Sqlite
