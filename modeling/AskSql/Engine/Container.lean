import AskSql.Engine.Table

/-!
Engines over a prepared description of the tables.

* `ContextContainer`: a description that was prepared in advance, as one text or table by table.
* `ContextContainer.build`: describes every usable table of a database.
* `DirectEngine`: runs the words of a question as a statement.
* `NarrativeEngine`: has a model write a statement from the prepared description, and phrases the
  result with a prompt of its own.
-/

namespace AskSql

variable {σ : Type}

/-- A description of tables that was prepared in advance. -/
structure ContextContainer where
  /-- Used as it is when there is one. -/
  text : Option String := none
  /-- The descriptions of single tables, in order. -/
  tables : Option (List (String × String)) := none

namespace ContextContainer

/-- Describes every usable table of a database, each with its context if there is one. -/
def build (db : Database σ) (contexts : Dictionary String) : Session σ ContextContainer := do
  let names ← db.usableTables
  let tables ← Session.each
    (fun name => do
      let document ← tableDocument db name (contexts.get? name)
      return (name, document))
    names
  return { tables := some tables }

/-- The description: the text if there is one, else those of the tables. -/
def tableContext (container : ContextContainer) : Except Failure String :=
  match container.text, container.tables with
  | some text, _ => .ok text
  | none, some tables => .ok (joinBlocks (tables.map (·.2)))
  | none, none => .error (.configuration .noTableContext)

end ContextContainer

/-- Runs the words of a question as a statement. -/
structure DirectEngine (σ : Type) where
  database : Database σ
  container : ContextContainer := {}

namespace DirectEngine

/-- What the words of a question yield as a statement. -/
def ask (engine : DirectEngine σ) (question : Question) : Session σ Answer := do
  let result ← engine.database.run question.text
  return .ofText result.text result.metadata

/-- Nothing can be asked asynchronously, so the blocking path is taken. -/
def askAsync (engine : DirectEngine σ) (question : Question) : Session σ Answer :=
  engine.ask question

/-- What the words of a question yield, by mode. -/
def askBy (engine : DirectEngine σ) : CallMode → Question → Session σ Answer
  | .blocking => engine.ask
  | .async => engine.askAsync

end DirectEngine

/-- Answers questions from a prepared description of the tables. -/
structure NarrativeEngine (σ : Type) where
  database : Database σ
  container : ContextContainer
  llm : LanguageModel σ
  sqlPrompt : Prompt := .textToSql
  synthesisPrompt : Prompt := .sqlSynthesis
  synthesize : Bool := true

namespace NarrativeEngine

/-! ### Through the blocking entry points -/

/-- The words of the answer that a result makes. -/
def phraseBlocking (engine : NarrativeEngine σ) (question : Question) (sql : String)
    (result : Execution) : Session σ String :=
  if engine.synthesize then
    engine.llm.predict .blocking engine.synthesisPrompt
      [("query_str", question.text), ("sql_query", sql), ("sql_response_str", result.text)]
  else
    return result.text

/-- The answer to a question. -/
def askBlocking (engine : NarrativeEngine σ) (question : Question) : Session σ Answer := do
  let tables ← Session.ofExcept engine.container.tableContext
  let completion ← engine.llm.predict .blocking engine.sqlPrompt
    [("query_str", question.text), ("schema", tables), ("dialect", engine.database.dialect)]
  let sql := Statement.beforeResult completion
  let result ← engine.database.runRecorded sql
  let text ← engine.phraseBlocking question sql result
  return .ofText text result.metadata

/-! ### Through the asynchronous entry points -/

/-- The words of the answer that a result makes. -/
def phraseAsync (engine : NarrativeEngine σ) (question : Question) (sql : String)
    (result : Execution) : Session σ String :=
  if engine.synthesize then
    engine.llm.predict .async engine.synthesisPrompt
      [("query_str", question.text), ("sql_query", sql), ("sql_response_str", result.text)]
  else
    return result.text

/-- The answer to a question. -/
def askAsync (engine : NarrativeEngine σ) (question : Question) : Session σ Answer := do
  let tables ← Session.ofExcept engine.container.tableContext
  let completion ← engine.llm.predict .async engine.sqlPrompt
    [("query_str", question.text), ("schema", tables), ("dialect", engine.database.dialect)]
  let sql := Statement.beforeResult completion
  let result ← engine.database.runRecorded sql
  let text ← engine.phraseAsync question sql result
  return .ofText text result.metadata

/-! ### By mode -/

/-- The words of the answer that a result makes. -/
def phrase (engine : NarrativeEngine σ) :
    CallMode → Question → String → Execution → Session σ String
  | .blocking => engine.phraseBlocking
  | .async => engine.phraseAsync

/-- The answer to a question. -/
def ask (engine : NarrativeEngine σ) : CallMode → Question → Session σ Answer
  | .blocking => engine.askBlocking
  | .async => engine.askAsync

end NarrativeEngine

end AskSql
