import AskSql.Engine.Table

/-!
Putting together an engine over the tables of a database.

* `EngineOptions`: what can be chosen; whatever is not takes its usual value.
* `EngineOptions.build`: any provider and any way of reading statements. A synthesis prompt that
  could not be rendered later is refused here, before any collaborator is asked.
* `EngineOptions.nlSql`, `EngineOptions.pgvector`, `EngineOptions.overRetriever`: the usual engines.
-/

namespace AskSql

variable {σ : Type}

/-- What can be chosen for an engine. -/
structure EngineOptions where
  sqlPrompt : Option Prompt := none
  synthesisPrompt : Option Prompt := none
  /-- Notes on tables by name. -/
  notes : Dictionary String := .empty
  synthesize : Bool := true
  responseMode : ResponseMode := .compact

namespace EngineOptions

/-- An engine with any provider and any way of reading statements. -/
def build (options : EngineOptions) (db : Database σ) (llm : LanguageModel σ)
    (provider : ContextProvider σ) (reader : StatementReader σ) :
    Except Failure (TableEngine σ) := do
  let synthesisPrompt := options.synthesisPrompt.getD .sqlSynthesisV2
  synthesisPrompt.checkSynthesis
  return {
    database := db
    provider := provider
    reader := reader
    sqlPrompt := options.sqlPrompt.getD .textToSql
    synthesisPrompt := synthesisPrompt
    synthesize := options.synthesize
    responseMode := options.responseMode
    llm := llm }

/-- An engine over the tables of a list, or over every usable table if there is none in it. -/
def nlSql (options : EngineOptions) (db : Database σ) (models : Models σ)
    (tables : Option (List TableRef)) : Except Failure (TableEngine σ) :=
  options.build db models.llm (.chosen tables options.notes) .plain

/-- The same for databases that compare vectors: the prompt explains the place for the vector of the
question, and the statement gets it filled in. -/
def pgvector (options : EngineOptions) (db : Database σ) (models : Models σ)
    (tables : Option (List TableRef)) : Except Failure (TableEngine σ) :=
  { options with sqlPrompt := some (options.sqlPrompt.getD .textToSqlVector) }.build db models.llm
    (.chosen tables options.notes) (.vector models.embedding)

/-- An engine over tables that are picked for each question. -/
def overRetriever (options : EngineOptions) (db : Database σ) (models : Models σ)
    (retriever : SchemaRetriever σ) (heading : Option String) : Except Failure (TableEngine σ) :=
  options.build db models.llm (.retrieved retriever heading) .plain

end EngineOptions

end AskSql
