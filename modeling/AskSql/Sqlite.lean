import AskSql.Sqlite.Rows
import AskSql.Sqlite.Schema

/-!
A SQLite database behind the interface that engines use.

The tables that may be used are those of the list to include, in ascending order and as often as
they are named there, whatever else is hidden; without such a list they are the visible tables
that are not to be ignored, in the order in which SQLite lists them. Every name in either list has
to be visible when the list is given, and so has a table that is to be described.

* `Connection`: what SQLite tells about its tables, the way to run statements, and the options.
* `Connection.including`, `Connection.ignoring`: restrict the usable tables.
* `Connection.database`: the interface.
* `Connection.unreadable`: the interface to a file that is no database.
-/

namespace AskSql.Sqlite

/-- A text in a row is shortened beyond this length. -/
def defaultTextLimit : Nat := 300

/-- An open database with its options. -/
structure Connection (σ : Type) where
  schema : Schema
  /-- Runs a statement. -/
  execute : String → Session σ ResultSet
  included : Option (List String) := none
  ignored : List String := []
  /-- How long a text in a row may be, zero for any length. -/
  textLimit : Nat := defaultTextLimit

namespace Connection

variable {σ : Type}

/-- The names of the visible tables. -/
def tables (c : Connection σ) : Except Failure (List String) := c.schema.names hiddenPattern

/-- Restricts the usable tables to a list, in which every name has to be visible. -/
def including (c : Connection σ) (names : List String) : Except Failure (Connection σ) := do
  let tables ← c.tables
  match names.find? fun name => !tables.contains name with
  | some name => .error (.configuration (.missingIncluded name))
  | none => .ok { c with included := some names }

/-- Hides the tables of a list, in which every name has to be visible. -/
def ignoring (c : Connection σ) (names : List String) : Except Failure (Connection σ) := do
  let tables ← c.tables
  match names.find? fun name => !tables.contains name with
  | some name => .error (.configuration (.missingIgnored name))
  | none => .ok { c with ignored := names }

/-- The tables that may be used. -/
def usable (c : Connection σ) : Except Failure (List String) :=
  match c.included with
  | some names => .ok (names.mergeSort fun a b => a ≤ b)
  | none => c.tables.map fun tables => tables.filter fun name => !c.ignored.contains name

/-- The structure of a visible table. -/
def describe (c : Connection σ) (name : String) : Except Failure String := do
  let tables ← c.tables
  if tables.contains name then
    let columns ← c.schema.columns (quoteIdentifier name)
    let keys ← c.schema.foreignKeys (quoteIdentifier name)
    return structureText name columns keys
  else
    .error (.database (.tableNotFound name))

/-- The database as an engine sees it. -/
def database (c : Connection σ) : Database σ where
  dialect := "sqlite"
  usableTables := .ofExcept c.usable
  describe name := .ofExcept (c.describe name)
  run sql := do
    let result ← c.execute sql
    return result.execution c.textLimit

/-- A file that is no database, as an engine sees it. It opens, and whatever looks at its tables
fails. -/
def unreadable (c : Connection σ) : Database σ :=
  { c with schema := .failing (.database .notADatabase) }.database

end Connection

end AskSql.Sqlite
