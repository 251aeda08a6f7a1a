import AskSql.Statement
import AskSql.Synthesis
import AskSql.TableContext

/-!
The engine that answers questions over the tables of a database.

A question passes four stages, and a failure ends it: the tables are described, a model writes a
statement, the database runs it, and, if that is wanted, the result is phrased as an answer. The
statement that ran is recorded in the metadata of the answer.

* `Models`: the collaborators that are models.
* `TableEngine`: the engine with its collaborators and its prompts.
* `TableEngine.askBlocking`, `TableEngine.askAsync`, `TableEngine.ask`: the four stages.
-/

namespace AskSql

variable {σ : Type}

/-- The collaborators that are models. -/
structure Models (σ : Type) where
  llm : LanguageModel σ
  embedding : EmbeddingModel σ

/-- An engine over the tables of a database. -/
structure TableEngine (σ : Type) where
  database : Database σ
  provider : ContextProvider σ
  reader : StatementReader σ
  /-- Writes the statement. -/
  sqlPrompt : Prompt
  /-- Phrases the answer. -/
  synthesisPrompt : Prompt
  /-- Whether results are phrased as answers. -/
  synthesize : Bool
  responseMode : ResponseMode
  llm : LanguageModel σ

namespace TableEngine

/-- The synthesizer for the result of a statement. -/
def synthesizer (engine : TableEngine σ) (sql : String) : Synthesizer σ :=
  .ofMode engine.responseMode engine.llm (engine.synthesisPrompt.bind [("sql_query", sql)])

/-! ### Through the blocking entry points -/

/-- The description of the tables for a question. -/
def tableContextBlocking (engine : TableEngine σ) (question : Question) : Session σ String :=
  engine.provider.context .blocking engine.database question

/-- Has the model write a statement for a question. -/
def generateBlocking (engine : TableEngine σ) (question : Question) (tables : String) :
    Session σ String :=
  engine.llm.predict .blocking engine.sqlPrompt
    [("query_str", question.text), ("schema", tables), ("dialect", engine.database.dialect)]

/-- The answer that a result makes. -/
def respondBlocking (engine : TableEngine σ) (question : Question) (sql : String)
    (result : Execution) : Session σ Answer :=
  if engine.synthesize then do
    let answer ← (engine.synthesizer sql).synthesize .blocking question.text
      [{ text := result.text }]
    return answer.withExecution result.metadata
  else
    return .ofText result.text result.metadata

/-- The answer to a question. -/
def askBlocking (engine : TableEngine σ) (question : Question) : Session σ Answer := do
  let tables ← engine.tableContextBlocking question
  let completion ← engine.generateBlocking question tables
  let sql ← engine.reader.readBlocking completion question
  let result ← engine.database.runRecorded sql
  engine.respondBlocking question sql result

/-! ### Through the asynchronous entry points

A database has no such entry point, so the statement runs as it does otherwise. -/

/-- The description of the tables for a question. -/
def tableContextAsync (engine : TableEngine σ) (question : Question) : Session σ String :=
  engine.provider.context .async engine.database question

/-- Has the model write a statement for a question. -/
def generateAsync (engine : TableEngine σ) (question : Question) (tables : String) :
    Session σ String :=
  engine.llm.predict .async engine.sqlPrompt
    [("query_str", question.text), ("schema", tables), ("dialect", engine.database.dialect)]

/-- The answer that a result makes. -/
def respondAsync (engine : TableEngine σ) (question : Question) (sql : String)
    (result : Execution) : Session σ Answer :=
  if engine.synthesize then do
    let answer ← (engine.synthesizer sql).synthesize .async question.text [{ text := result.text }]
    return answer.withExecution result.metadata
  else
    return .ofText result.text result.metadata

/-- The answer to a question. -/
def askAsync (engine : TableEngine σ) (question : Question) : Session σ Answer := do
  let tables ← engine.tableContextAsync question
  let completion ← engine.generateAsync question tables
  let sql ← engine.reader.readAsync completion question
  let result ← engine.database.runRecorded sql
  engine.respondAsync question sql result

/-! ### By mode -/

/-- The description of the tables for a question. -/
def tableContext (engine : TableEngine σ) : CallMode → Question → Session σ String
  | .blocking => engine.tableContextBlocking
  | .async => engine.tableContextAsync

/-- Has the model write a statement for a question. -/
def generate (engine : TableEngine σ) : CallMode → Question → String → Session σ String
  | .blocking => engine.generateBlocking
  | .async => engine.generateAsync

/-- The answer that a result makes. -/
def respond (engine : TableEngine σ) :
    CallMode → Question → String → Execution → Session σ Answer
  | .blocking => engine.respondBlocking
  | .async => engine.respondAsync

/-- The answer to a question. -/
def ask (engine : TableEngine σ) : CallMode → Question → Session σ Answer
  | .blocking => engine.askBlocking
  | .async => engine.askAsync

end TableEngine

end AskSql
