import AskSql.Database
import AskSql.Question
import AskSql.Table
import AskSql.VectorStore

/-!
Choosing the tables that a question is about.

* `SchemaRetriever`: a source of table schemas for a question.
* `SchemaRetriever.ofBlocking`: one that has only a blocking entry point.
* `TableIndex`: the documents of tables with their vectors.
* `TableIndex.build`: embeds the document of each table, in order, up to the first failure.
* `TableIndex.retriever`: the tables closest to a question. A vector that the question brings
  along is used as it is; otherwise the model is asked.
-/

namespace AskSql

variable {σ : Type}

/-- A source of table schemas for a question. -/
structure SchemaRetriever (σ : Type) where
  retrieve : CallMode → Question → Session σ (List TableSchema)

/-- The retriever that has only a blocking entry point, which answers what is asked asynchronously
as well. -/
def SchemaRetriever.ofBlocking (retrieve : Question → Session σ (List TableSchema)) :
    SchemaRetriever σ where
  retrieve
    | .blocking => retrieve
    | .async => retrieve

/-- The documents of tables with their vectors. -/
abbrev TableIndex := VectorStore TableSchema

namespace TableIndex

/-- How many tables are retrieved unless a number is given. -/
def defaultTopK : Nat := 1

/-- The document of a table with its vector. -/
def document (db : Database σ) (model : EmbeddingModel σ) (table : TableSchema) :
    Session σ (Document TableSchema) := do
  let text ← tableDocument db table.name table.context
  let v ← model.ofDocument text
  return ⟨"table:" ++ table.name, text, table, v⟩

/-- Embeds the document of each table. -/
def build (db : Database σ) (model : EmbeddingModel σ) (tables : List TableSchema) :
    Session σ TableIndex := do
  let documents ← Session.each (document db model) tables
  return ({} : TableIndex).addAll documents

/-- The tables whose documents are closest to a vector. -/
def closest (index : TableIndex) (topK : Nat) (v : Embedding) : Session σ (List TableSchema) := do
  let found ← Session.ofExcept (VectorStore.search index v topK)
  return found.map (·.document.payload)

/-- The vector of a question. -/
def questionVectorBlocking (model : EmbeddingModel σ) (question : Question) :
    Session σ Embedding :=
  match question.embedding with
  | some v => return v
  | none => model.ofQuestion .blocking question.text

/-- The vector of a question, asked for asynchronously. -/
def questionVectorAsync (model : EmbeddingModel σ) (question : Question) : Session σ Embedding :=
  match question.embedding with
  | some v => return v
  | none => model.ofQuestion .async question.text

/-- The vector of a question, by mode. -/
def questionVector (model : EmbeddingModel σ) : CallMode → Question → Session σ Embedding
  | .blocking => questionVectorBlocking model
  | .async => questionVectorAsync model

/-- The tables whose documents are closest to a question. -/
def retrieveBlocking (index : TableIndex) (model : EmbeddingModel σ) (topK : Nat)
    (question : Question) : Session σ (List TableSchema) := do
  let v ← questionVectorBlocking model question
  index.closest topK v

/-- The tables whose documents are closest to a question, with its vector asked for
asynchronously. -/
def retrieveAsync (index : TableIndex) (model : EmbeddingModel σ) (topK : Nat)
    (question : Question) : Session σ (List TableSchema) := do
  let v ← questionVectorAsync model question
  index.closest topK v

/-- Retrieves the tables whose documents are closest to a question. -/
def retriever (index : TableIndex) (model : EmbeddingModel σ) (topK : Nat := defaultTopK) :
    SchemaRetriever σ where
  retrieve
    | .blocking => index.retrieveBlocking model topK
    | .async => index.retrieveAsync model topK

end TableIndex

end AskSql
