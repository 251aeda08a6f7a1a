import AskSql.Retriever

/-!
The description of tables that a model is given.

A provider picks tables and describes each of them; it differs from another one only in which
tables it picks and where the notes on them come from.

* `ContextProvider`: a way to describe tables for a question.
* `ContextProvider.ofBlocking`: one that consults nobody but the database.
* `ContextProvider.selected`: tables that the caller chose, in the caller's order.
* `ContextProvider.all`: every usable table, in the order of the database.
* `ContextProvider.retrieved`: tables that a retriever picks, under an optional heading.
-/

namespace AskSql

variable {σ : Type}

/-- A way to describe tables for a question. -/
structure ContextProvider (σ : Type) where
  context : CallMode → Database σ → Question → Session σ String

namespace ContextProvider

/-- The provider that has only a blocking entry point, which answers what is asked asynchronously
as well. -/
def ofBlocking (context : Database σ → Question → Session σ String) : ContextProvider σ where
  context
    | .blocking => context
    | .async => context

/-- Describes tables, each with a note if there is one for it. -/
def describeAll (db : Database σ) (tables : List (String × Option String)) :
    Session σ (List String) :=
  Session.each (fun table => describeTable db table.1 table.2) tables

/-- The tables that the caller chose, with notes by name. -/
def selected (tables : List TableRef) (notes : Dictionary String) : ContextProvider σ :=
  ofBlocking fun db _ => do
    let blocks ← describeAll db
      (tables.map fun table => (table.tableName, notes.get? table.tableName))
    return joinBlocks blocks

/-- Every usable table, with notes by name. -/
def all (notes : Dictionary String) : ContextProvider σ :=
  ofBlocking fun db _ => do
    let names ← db.usableTables
    let blocks ← describeAll db (names.map fun name => (name, notes.get? name))
    return joinBlocks blocks

/-- The note on a retrieved table; an empty one is none. -/
def noteOf (table : TableSchema) : Option String := table.context.filter (· != "")

/-- Tables that have been retrieved, under an optional heading. -/
def describeRetrieved (db : Database σ) (heading : Option String) (tables : List TableSchema) :
    Session σ String := do
  let blocks ← describeAll db (tables.map fun table => (table.name, noteOf table))
  return joinBlocks (heading.toList ++ blocks)

/-- The tables that a retriever picks, under an optional heading. -/
def retrieved (retriever : SchemaRetriever σ) (heading : Option String) : ContextProvider σ where
  context
    | .blocking, db, question => do
        let tables ← retriever.retrieve .blocking question
        describeRetrieved db heading tables
    | .async, db, question => do
        let tables ← retriever.retrieve .async question
        describeRetrieved db heading tables

/-- The tables that the caller chose, or every usable table if none is chosen. -/
def chosen (tables : Option (List TableRef)) (notes : Dictionary String) : ContextProvider σ :=
  match tables with
  | some (table :: tables) => selected (table :: tables) notes
  | _ => all notes

end ContextProvider

end AskSql
