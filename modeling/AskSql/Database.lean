import AskSql.Answer
import AskSql.Session

/-!
What an engine asks of a database, and how its tables are described to a model.

* `Execution`: what a statement yields, as text and as metadata.
* `Database`: the dialect, the tables, the structure of one table, running a statement.
* `describeTable`: the structure of a table with an optional note.
* `tableDocument`: the longer text of a table that is embedded or kept in a context container.
* `joinBlocks`: texts with a blank line between them.
-/

namespace AskSql

/-- What a statement yields. -/
structure Execution where
  text : String
  metadata : Metadata

/-- A database as an engine sees it. -/
structure Database (σ : Type) where
  /-- The name of the variety of SQL. -/
  dialect : String
  /-- The tables that may be used. -/
  usableTables : Session σ (List String)
  /-- The structure of one table, for a reader. -/
  describe : String → Session σ String
  /-- Runs a statement. -/
  run : String → Session σ Execution

variable {σ : Type}

/-- Runs a statement and records it. -/
def Database.runRecorded (db : Database σ) (sql : String) : Session σ Execution := do
  let result ← db.run sql
  return { result with metadata := result.metadata.insert sqlQueryKey (.text sql) }

/-- Texts with a blank line between them. -/
def joinBlocks : List String → String
  | [] => ""
  | [block] => block
  | block :: next :: blocks => block ++ "\n\n" ++ joinBlocks (next :: blocks)

/-- What stands between the structure of a table and a note on it. -/
def noteLead : String := " The table description is: "

/-- The structure of a table, followed by a note if there is one. -/
def describeTable (db : Database σ) (table : String) (note : Option String) : Session σ String := do
  let structureText ← db.describe table
  return match note with
    | none => structureText
    | some note => structureText ++ noteLead ++ note

/-- The structure of a table under a heading, followed by its context if there is one. -/
def tableDocument (db : Database σ) (table : String) (context : Option String) :
    Session σ String := do
  let structureText ← db.describe table
  let head := "Schema of table " ++ table ++ ":\n" ++ structureText ++ "\n"
  return match context with
    | none => head
    | some context => head ++ ("Context of table " ++ table ++ ":\n" ++ context)

end AskSql
