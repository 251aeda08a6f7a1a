import AskSql.Question
import AskSql.Text.Blank
import AskSql.Text.Search

/-!
Statements cut out of completions.

A completion is to read `SQLQuery:`, the statement, `SQLResult:` and a guess at the result. Only
what stands between the two labels may run: whatever follows the first `SQLResult:` after the
statement has begun is dropped. Code fences and blanks around the statement are taken off.

* `Statement.ofCompletion`: the statement of a completion.
* `Statement.beforeResult`: the completion up to `SQLResult:`, for engines that know no other label.
* `Statement.fillVector`: puts the vector of the question in the place of `[query_vector]`. The
  model is asked once, and only if there is a place to fill.
* `StatementReader`: how an engine turns a completion into a statement.
-/

namespace AskSql

namespace Statement

/-- The label before the statement. -/
def queryLabel : List Char := "SQLQuery:".toList

/-- The label before the guess at the result. -/
def resultLabel : List Char := "SQLResult:".toList

/-- The place for the vector of the question. -/
def placeholder : List Char := "[query_vector]".toList

/-- The mark of a code fence. -/
def isFence (c : Char) : Bool := c = '\x60'

/-- What stands before the guess at the result. -/
def crop (text : List Char) : List Char := Text.upToFirst resultLabel text

/-- A statement without the blanks and the code fences around it. -/
def undecorate (text : List Char) : List Char :=
  Text.trim (Text.trimEnds isFence (Text.trim text))

/-- The characters of the statement in a completion. Without the label before it, the statement
starts where the completion does. -/
def extract (completion : List Char) : List Char :=
  undecorate (crop (Text.afterFirst queryLabel completion))

/-- The statement in a completion. -/
def ofCompletion (completion : String) : String := String.ofList (extract completion.toList)

/-- The completion up to the guess at the result, without blanks around it. -/
def beforeResult (completion : String) : String :=
  String.ofList (Text.trim (crop completion.toList))

/-- The statement with a vector in every place for it. -/
def withVector (sql : String) (v : Embedding) : String :=
  String.ofList (Text.replaceAll placeholder (Embedding.chars v) sql.toList)

section Vectors

variable {σ : Type} (model : EmbeddingModel σ)

/-- Fills in the vector of the question where the statement has a place for it. -/
def fillVectorBlocking (sql : String) (question : Question) : Session σ String :=
  if Text.occursIn placeholder sql.toList then do
    let v ← model.ofQuestion .blocking question.text
    return withVector sql v
  else return sql

/-- Fills in the vector of the question, asked for asynchronously. -/
def fillVectorAsync (sql : String) (question : Question) : Session σ String :=
  if Text.occursIn placeholder sql.toList then do
    let v ← model.ofQuestion .async question.text
    return withVector sql v
  else return sql

/-- Fills in the vector of the question, by mode. -/
def fillVector : CallMode → String → Question → Session σ String
  | .blocking => fillVectorBlocking model
  | .async => fillVectorAsync model

end Vectors

end Statement

/-- How an engine turns a completion into a statement. -/
inductive StatementReader (σ : Type) where
  /-- The statement as it is. -/
  | plain
  /-- The statement with the vector of the question filled in. -/
  | vector (model : EmbeddingModel σ)

namespace StatementReader

variable {σ : Type}

/-- The name of the way of reading. -/
def name : StatementReader σ → String
  | plain => "Default"
  | vector _ => "PgVector"

/-- The statement of a completion that answers a question. -/
def readBlocking (reader : StatementReader σ) (completion : String) (question : Question) :
    Session σ String :=
  match reader with
  | plain => return Statement.ofCompletion completion
  | vector model => Statement.fillVectorBlocking model (Statement.ofCompletion completion) question

/-- The statement of a completion, with a vector asked for asynchronously. -/
def readAsync (reader : StatementReader σ) (completion : String) (question : Question) :
    Session σ String :=
  match reader with
  | plain => return Statement.ofCompletion completion
  | vector model => Statement.fillVectorAsync model (Statement.ofCompletion completion) question

/-- The statement of a completion, by mode. -/
def read (reader : StatementReader σ) : CallMode → String → Question → Session σ String
  | .blocking => reader.readBlocking
  | .async => reader.readAsync

end StatementReader

end AskSql
