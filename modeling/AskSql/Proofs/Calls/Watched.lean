import AskSql.Engine.Container
import AskSql.Engine.Options

/-!
Collaborators under watch: every call that is made to one of them is recorded with what it ended in.

* `Request`, `Call`: what a collaborator is asked for, and a request with its outcome.
* `Watched`: the state of the collaborators together with the calls made so far.
* `Session.watched`: the session that is one call, recorded.
* `Database.watched`, `LanguageModel.watched`, `EmbeddingModel.watched`, `SchemaRetriever.watched`:
  collaborators that behave as before and record their calls.
* `TableSource`: where the description of the tables comes from. The three usual providers are
  watched call by call; any other provider is a collaborator of its own, and its call is recorded as
  one.
* `TableEngine.watched`, `NarrativeEngine.watched`: engines over watched collaborators.
-/

namespace AskSql

variable {σ : Type}

/-! ### Calls -/

/-- What a collaborator is asked for. -/
inductive Request where
  /-- The description of the tables, asked of a provider of the caller. -/
  | description (mode : CallMode) (question : Question)
  /-- The tables that a question is about. -/
  | retrieval (mode : CallMode) (question : Question)
  /-- The tables of the database that may be used. -/
  | usableTables
  /-- The structure of one table. -/
  | structureOf (table : String)
  /-- The completion of a prompt. -/
  | completion (mode : CallMode) (prompt : Prompt) (bindings : Bindings)
  /-- The vector of a question. -/
  | questionVector (mode : CallMode) (text : String)
  /-- The vector of a document. -/
  | documentVector (text : String)
  /-- What a statement yields. -/
  | execution (sql : String)

namespace Request

/-- What a request is answered with. -/
abbrev Reply : Request → Type
  | description _ _ => String
  | retrieval _ _ => List TableSchema
  | usableTables => List String
  | structureOf _ => String
  | completion _ _ _ => String
  | questionVector _ _ => Embedding
  | documentVector _ => Embedding
  | execution _ => Execution

/-- Every request can be answered. -/
instance (request : Request) : Inhabited request.Reply where
  default := match request with
    | description _ _ => ""
    | retrieval _ _ => []
    | usableTables => []
    | structureOf _ => ""
    | completion _ _ _ => ""
    | questionVector _ _ => []
    | documentVector _ => []
    | execution _ => ⟨"", .empty⟩

/-- Whether a statement is to be run. -/
def isExecution : Request → Bool
  | execution _ => true
  | _ => false

end Request

/-- A request with what it ended in. -/
structure Call where
  request : Request
  outcome : Except Failure request.Reply

/-- Whether a call brought an answer. -/
def Call.succeeded (call : Call) : Bool := call.outcome.isOk

/-- The state of collaborators together with the calls that were made. -/
abbrev Watched (σ : Type) : Type := σ × List Call

/-- The session as one call, which is recorded whatever it ends in. -/
def Session.watched (request : Request) (session : Session σ request.Reply) :
    Session (Watched σ) request.Reply := fun state =>
  ((session state.1).1, (session state.1).2, state.2 ++ [⟨request, (session state.1).1⟩])

/-! ### Collaborators -/

/-- The database with its calls recorded. -/
def Database.watched (db : Database σ) : Database (Watched σ) where
  dialect := db.dialect
  usableTables := db.usableTables.watched .usableTables
  describe table := (db.describe table).watched (.structureOf table)
  run sql := (db.run sql).watched (.execution sql)

/-- The language model with its calls recorded. -/
def LanguageModel.watched (model : LanguageModel σ) : LanguageModel (Watched σ) where
  predict mode prompt bindings :=
    (model.predict mode prompt bindings).watched (.completion mode prompt bindings)

/-- The embedding model with its calls recorded. -/
def EmbeddingModel.watched (model : EmbeddingModel σ) : EmbeddingModel (Watched σ) where
  ofQuestion mode text := (model.ofQuestion mode text).watched (.questionVector mode text)
  ofDocument text := (model.ofDocument text).watched (.documentVector text)

/-- The retriever with its calls recorded. -/
def SchemaRetriever.watched (retriever : SchemaRetriever σ) : SchemaRetriever (Watched σ) where
  retrieve mode question := (retriever.retrieve mode question).watched (.retrieval mode question)

/-- The way of reading statements with the calls to its model recorded. -/
def StatementReader.watched : StatementReader σ → StatementReader (Watched σ)
  | .plain => .plain
  | .vector model => .vector model.watched

/-! ### Sources of table descriptions -/

/-- Where the description of the tables comes from. -/
inductive TableSource (σ : Type) where
  /-- Tables that the caller chose, with notes by name. -/
  | selected (tables : List TableRef) (notes : Dictionary String)
  /-- Every usable table, with notes by name. -/
  | all (notes : Dictionary String)
  /-- Tables that a retriever picks, under an optional heading. -/
  | retrieved (retriever : SchemaRetriever σ) (heading : Option String)
  /-- Any other provider. -/
  | other (provider : ContextProvider σ)

namespace TableSource

/-- The provider of a source. -/
def provider : TableSource σ → ContextProvider σ
  | selected tables notes => .selected tables notes
  | all notes => .all notes
  | retrieved retriever heading => .retrieved retriever heading
  | other provider => provider

/-- The source with its calls recorded. A provider of the caller works on the database itself, and
its call is recorded as a whole. -/
def watched (db : Database σ) : TableSource σ → TableSource (Watched σ)
  | selected tables notes => selected tables notes
  | all notes => all notes
  | retrieved retriever heading => retrieved retriever.watched heading
  | other provider => other
      ⟨fun mode _ question =>
        (provider.context mode db question).watched (.description mode question)⟩

end TableSource

/-! ### Engines -/

/-- The engine with its tables described from a source. Every engine is of this form, over its own
provider as the source. -/
def TableEngine.over (engine : TableEngine σ) (source : TableSource σ) : TableEngine σ :=
  { engine with provider := source.provider }

theorem TableEngine.over_other (engine : TableEngine σ) :
    engine.over (.other engine.provider) = engine := rfl

/-- The engine over a source, with all calls recorded. -/
def TableEngine.watched (engine : TableEngine σ) (source : TableSource σ) :
    TableEngine (Watched σ) where
  database := engine.database.watched
  provider := (source.watched engine.database).provider
  reader := engine.reader.watched
  sqlPrompt := engine.sqlPrompt
  synthesisPrompt := engine.synthesisPrompt
  synthesize := engine.synthesize
  responseMode := engine.responseMode
  llm := engine.llm.watched

/-- The engine over a prepared description, with all calls recorded. -/
def NarrativeEngine.watched (engine : NarrativeEngine σ) : NarrativeEngine (Watched σ) where
  database := engine.database.watched
  container := engine.container
  llm := engine.llm.watched
  sqlPrompt := engine.sqlPrompt
  synthesisPrompt := engine.synthesisPrompt
  synthesize := engine.synthesize

end AskSql
