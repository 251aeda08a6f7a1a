import AskSql.Client.Chat
import AskSql.Client.Embedding
import AskSql.Engine.Container
import AskSql.Engine.Table
import Mathlib.Tactic.Lemma

/-!
The two copies of every path.

What consults collaborators is written once for the blocking and once for the asynchronous entry
points. Here the copies are brought under one equation with the entry point as a variable, which
holds because neither of them has drifted from the other; whatever is shown of a path in the other
modules rests on these equations and so speaks of both copies.

* `ContextProvider.ofBlocking_context`, `SchemaRetriever.ofBlocking_retrieve` and their like: what
  has one entry point only answers through both.
* `Statement.fillVector_eq`, `StatementReader.read_plain`, `StatementReader.read_vector`,
  `TableIndex.retriever_retrieve`, `Synthesizer.compact_synthesize`: the stages.
* `TableEngine.ask_eq`, `NarrativeEngine.ask_eq`, `DirectEngine.askBy_eq`: the engines.
* `ChatClient.complete_eq`, `EmbeddingClient.embed_eq`: the clients of servers.
-/

namespace AskSql

variable {σ : Type} (mode : CallMode)

/-! ### Collaborators -/

/-- A prompt is rendered before a model of completions is asked. -/
lemma LanguageModel.ofCompletion_predict (complete : CallMode → String → Session σ String)
    (prompt : Prompt) (bindings : List (String × String)) :
    (ofCompletion complete).predict mode prompt bindings = (do
      let text ← Session.ofExcept (prompt.render bindings)
      complete mode text) := by
  cases mode <;> rfl

@[simp]
lemma EmbeddingModel.ofQuestions_ofQuestion (embed : String → Session σ Embedding) (text : String) :
    (ofQuestions embed).ofQuestion mode text = embed text := by
  cases mode <;> rfl

@[simp]
lemma SchemaRetriever.ofBlocking_retrieve (retrieve : Question → Session σ (List TableSchema))
    (question : Question) : (ofBlocking retrieve).retrieve mode question = retrieve question := by
  cases mode <;> rfl

namespace ContextProvider

@[simp]
lemma ofBlocking_context (context : Database σ → Question → Session σ String) (db : Database σ)
    (question : Question) :
    (ofBlocking context).context mode db question = context db question := by
  cases mode <;> rfl

lemma selected_context (tables : List TableRef) (notes : Dictionary String) (db : Database σ)
    (question : Question) :
    (selected tables notes).context mode db question = (do
      let blocks ← describeAll db
        (tables.map fun table => (table.tableName, notes.get? table.tableName))
      return joinBlocks blocks) :=
  ofBlocking_context ..

lemma all_context (notes : Dictionary String) (db : Database σ) (question : Question) :
    (all notes).context mode db question = (do
      let names ← db.usableTables
      let blocks ← describeAll db (names.map fun name => (name, notes.get? name))
      return joinBlocks blocks) :=
  ofBlocking_context ..

lemma retrieved_context (retriever : SchemaRetriever σ) (heading : Option String)
    (db : Database σ) (question : Question) :
    (retrieved retriever heading).context mode db question = (do
      let tables ← retriever.retrieve mode question
      describeRetrieved db heading tables) := by
  cases mode <;> rfl

end ContextProvider

/-! ### The stages -/

namespace TableIndex

variable (model : EmbeddingModel σ)

lemma questionVector_eq (question : Question) :
    questionVector model mode question = match question.embedding with
      | some v => return v
      | none => model.ofQuestion mode question.text := by
  cases mode <;> rfl

lemma retriever_retrieve (index : TableIndex) (topK : Nat) (question : Question) :
    (index.retriever model topK).retrieve mode question = (do
      let v ← questionVector model mode question
      index.closest topK v) := by
  cases mode <;> rfl

end TableIndex

lemma Statement.fillVector_eq (model : EmbeddingModel σ) (sql : String) (question : Question) :
    fillVector model mode sql question =
      if Text.occursIn placeholder sql.toList then do
        let v ← model.ofQuestion mode question.text
        return withVector sql v
      else return sql := by
  cases mode <;> rfl

namespace StatementReader

variable (completion : String) (question : Question)

@[simp]
lemma read_plain :
    (plain : StatementReader σ).read mode completion question
      = return Statement.ofCompletion completion := by
  cases mode <;> rfl

@[simp]
lemma read_vector (model : EmbeddingModel σ) :
    (vector model).read mode completion question
      = Statement.fillVector model mode (Statement.ofCompletion completion) question := by
  cases mode <;> rfl

end StatementReader

namespace Synthesizer

variable (question : String) (sources : List SourceNode)

lemma compact_synthesize (model : LanguageModel σ) (prompt : Prompt) :
    (compact model prompt).synthesize mode question sources = (do
      let completion ← (model.predict mode prompt
        [("query_str", question), ("context_str", joinBlocks (sources.map (·.text)))]).mapFailure
          Failure.inSynthesis
      return answerOf completion sources) := by
  cases mode <;> rfl

@[simp]
lemma noText_synthesize :
    (noText : Synthesizer σ).synthesize mode question sources = withoutWords question sources := by
  cases mode <;> rfl

end Synthesizer

/-! ### The engines -/

namespace TableEngine

variable (engine : TableEngine σ) (question : Question)

lemma tableContext_eq :
    engine.tableContext mode question
      = engine.provider.context mode engine.database question := by
  cases mode <;> rfl

lemma generate_eq (tables : String) :
    engine.generate mode question tables = engine.llm.predict mode engine.sqlPrompt
      [("query_str", question.text), ("schema", tables),
        ("dialect", engine.database.dialect)] := by
  cases mode <;> rfl

lemma respond_eq (sql : String) (result : Execution) :
    engine.respond mode question sql result =
      if engine.synthesize then do
        let answer ← (engine.synthesizer sql).synthesize mode question.text
          [{ text := result.text }]
        return answer.withExecution result.metadata
      else
        return .ofText result.text result.metadata := by
  cases mode <;> rfl

lemma ask_eq :
    engine.ask mode question = (do
      let tables ← engine.tableContext mode question
      let completion ← engine.generate mode question tables
      let sql ← engine.reader.read mode completion question
      let result ← engine.database.runRecorded sql
      engine.respond mode question sql result) := by
  cases mode <;> rfl

end TableEngine

namespace NarrativeEngine

variable (engine : NarrativeEngine σ) (question : Question)

lemma phrase_eq (sql : String) (result : Execution) :
    engine.phrase mode question sql result =
      if engine.synthesize then
        engine.llm.predict mode engine.synthesisPrompt
          [("query_str", question.text), ("sql_query", sql), ("sql_response_str", result.text)]
      else
        return result.text := by
  cases mode <;> rfl

lemma ask_eq :
    engine.ask mode question = (do
      let tables ← Session.ofExcept engine.container.tableContext
      let completion ← engine.llm.predict mode engine.sqlPrompt
        [("query_str", question.text), ("schema", tables),
          ("dialect", engine.database.dialect)]
      let sql := Statement.beforeResult completion
      let result ← engine.database.runRecorded sql
      let text ← engine.phrase mode question sql result
      return .ofText text result.metadata) := by
  cases mode <;> rfl

end NarrativeEngine

@[simp]
lemma DirectEngine.askBy_eq (engine : DirectEngine σ) (question : Question) :
    engine.askBy mode question = engine.ask question := by
  cases mode <;> rfl

/-! ### The clients -/

lemma ChatClient.complete_eq (client : ChatClient) (transport : Http.Transport σ)
    (prompt : String) :
    client.complete transport mode prompt =
      if client.isOffline then return offlineCompletion prompt
      else (do
        let reply ← Http.exchange transport mode (client.request prompt) faults
        Session.ofExcept (content reply)) := by
  cases mode <;> rfl

lemma EmbeddingClient.embed_eq (client : EmbeddingClient) (transport : Http.Transport σ)
    (text : String) :
    client.embed transport mode text =
      if client.isOffline then return offlineVector
      else (do
        let reply ← Http.exchange transport mode (client.request text) faults
        Session.ofExcept (vector reply)) := by
  cases mode <;> rfl

end AskSql
