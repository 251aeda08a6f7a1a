import AskSql.Decimal.Numeral
import AskSql.Json.Reader
import AskSql.Sqlite
import AskSql.Sqlite.Catalogue

/-!
A database that has been written down as JSON: its tables, and what each of some statements yields.

    {"tables": [table, ...], "results": {statement: result, ...}}

* A table has a `name`, `columns` as pairs of a name and a type, and foreign keys `fks`, each
  with the columns it is `from`, the `table` it refers to and the columns it refers `to`.
* A result has the names `cols` of its columns and its `rows`; a statement without result columns
  has `none` instead, and one that fails has `fail` with the reason.
* A cell is null, an integer, a text, or an object: `r` with a number in decimal, `text` or
  `blob` with bytes in hexadecimal.

`Snapshot.ofText` reads a database, `Snapshot.connection` opens it.
-/

namespace AskSql

open Sqlite

/-- A database that has been written down. -/
structure Snapshot where
  catalogue : List TableDefinition := []
  results : Dictionary (Except Failure ResultSet) := .empty

namespace Snapshot

/-! ### Cells -/

/-- Bytes in hexadecimal. -/
def readBytes : List Char → Option (List UInt8)
  | [] => some []
  | a :: b :: rest => do
      let byte ← Text.hexByte a b
      let bytes ← readBytes rest
      return byte :: bytes
  | _ => none

/-- A number in decimal; what is not a number is kept as no value. -/
def readReal (s : String) : Option Cell :=
  if s = "inf" then some (.real (1 / 0))
  else if s = "-inf" then some (.real (-1 / 0))
  else if s = "NaN" then some .null
  else (Json.readAll Decimal.Numeral.read s.toList).map fun n => .real n.toFloat

/-- A cell. -/
def readCell (value : Json) : Option Cell :=
  match value with
  | .null => some .null
  | .integer n => some (.integer (Int64.ofInt n))
  | .text s => some (.text s.toUTF8.toList)
  | .object [("r", .text s)] => readReal s
  | .object [("text", .text s)] => (readBytes s.toList).map .text
  | .object [("blob", .text s)] => (readBytes s.toList).map .blob
  | _ => none

/-! ### Results and tables -/

/-- A row. -/
def readRow (value : Json) : Option (List Cell) :=
  value.items?.bind fun items => items.mapM readCell

/-- What a statement yields. -/
def readResult (value : Json) : Option (Except Failure ResultSet) :=
  match value.given? "fail", value.given? "none" with
  | some reason, _ => reason.text?.map fun reason => .error (.database (.reported reason))
  | none, some _ => some (.ok .none)
  | none, none => do
      let columns ← (value.member? "cols").bind Json.texts?
      let rows ← (value.member? "rows").bind Json.items?
      let rows ← rows.mapM readRow
      return .ok (.rows columns rows)

/-- A column with its type. -/
def readColumn (value : Json) : Option (String × String) :=
  match value with
  | .array [.text name, .text type] => some (name, type)
  | _ => none

/-- A foreign key. -/
def readForeignKey (value : Json) : Option ForeignKey := do
  let columns ← (value.member? "from").bind Json.texts?
  let table ← (value.member? "table").bind Json.text?
  match value.given? "to" with
  | none => return ⟨columns, table, none⟩
  | some targets => return ⟨columns, table, some (← targets.texts?)⟩

/-- The items of an array that may be missing. -/
def itemsOf (key : String) (value : Json) : Option (List Json) :=
  match value.given? key with
  | none => some []
  | some items => items.items?

/-- A table. -/
def readTable (value : Json) : Option TableDefinition := do
  let name ← (value.member? "name").bind Json.text?
  let columns ← (← itemsOf "columns" value).mapM readColumn
  let keys ← (← itemsOf "fks" value).mapM readForeignKey
  return ⟨name, columns, keys⟩

/-- The results of statements. -/
def readResults (value : Json) : Option (Dictionary (Except Failure ResultSet)) :=
  match value.given? "results" with
  | none => some .empty
  | some (.object members) => do
      let results ← members.mapM fun member => do
        let result ← readResult member.2
        return (member.1, result)
      return .ofList results
  | some _ => none

/-! ### Databases -/

/-- The database that a JSON value describes. -/
def ofJson (value : Json) : Option Snapshot := do
  let tables ← (← itemsOf "tables" value).mapM readTable
  let results ← readResults value
  return ⟨tables, results⟩

/-- The database that a JSON text describes. -/
def ofText (s : String) : Option Snapshot := (Json.parse s).bind ofJson

/-- What a statement yields. -/
def execute (snapshot : Snapshot) (sql : String) : Except Failure ResultSet :=
  (snapshot.results.get? sql).getD (.error (.database (.reported ("no recorded result: " ++ sql))))

/-- The database, open. -/
def connection {σ : Type} (snapshot : Snapshot) : Connection σ where
  schema := .ofTables (snapshot.catalogue.map TableDefinition.rows)
  execute sql := Session.ofExcept (snapshot.execute sql)

end Snapshot

end AskSql
