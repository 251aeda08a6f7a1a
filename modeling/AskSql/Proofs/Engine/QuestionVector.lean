import AskSql.Proofs.Engine.Execution
import AskSql.Proofs.Engine.Modes

/-!
The vector that a question brings along.

The words of a question pass through all stages of an engine, but a vector that comes with them is
looked at in one place only: an index of tables is searched for it instead of asking the model. So
engines whose tables come from elsewhere do not know the vector at all, and over an index it decides
which tables are found and whether the model is asked, and nothing else.

* `Question.withVector`: the question with another vector, or with none.
* `TableEngine.askOver_congr`: the stages after the tables have been described read the words only.
* `TableIndex.found`, `TableIndex.retrieve_of_vector`, `TableIndex.retrieve_of_words`: what an index
  finds for a vector, and the retrieval with and without one.
* `TableEngine.watchedIndex`: the engine over an index, under watch, and what a vector does there.
* `VectorOnlyRetrieves`, `ask_vectorOnlyRetrieves`: what a vector changes in the run of an engine.
* `shopEngine_readsVector`: over an index it does change the run.
-/

namespace AskSql

variable {σ : Type}

/-- The question with another vector, or with none. -/
def Question.withVector (question : Question) (vector : Option Embedding) : Question :=
  { question with embedding := vector }

/-- Its words are the same. -/
lemma Question.text_withVector (question : Question) (vector vector' : Option Embedding) :
    (question.withVector vector).text = (question.withVector vector').text := rfl

/-! ### The stages after the description of the tables -/

namespace TableEngine

variable {engine : TableEngine σ} {mode : CallMode} {question question' : Question}

/-- These stages read the words of a question only; a vector that is filled into the statement is
not the one that the question brings along. -/
lemma askOver_congr (htext : question.text = question'.text) :
    engine.askOver mode question = engine.askOver mode question' := by
  have hread (completion : String) :
      engine.reader.read mode completion question
        = engine.reader.read mode completion question' := by
    cases engine.reader with
    | plain => rw [StatementReader.read_plain, StatementReader.read_plain]
    | vector model =>
        rw [StatementReader.read_vector, StatementReader.read_vector,
          Statement.fillVector_congr htext]
  funext tables
  simp only [askOver, generate_eq, respond_eq, htext, hread]

/-- So what questions of the same words change they change in the description of the tables. -/
lemma ask_apply_of_context (htext : question.text = question'.text) {state state' : σ}
    (h : engine.tableContext mode question state = engine.tableContext mode question' state') :
    engine.ask mode question state = engine.ask mode question' state' := by
  rw [ask_eq_askOver, ask_eq_askOver, askOver_congr htext]
  exact Session.bind_apply_congr h _

/-- So a vector that does not change that description changes nothing. -/
lemma ask_eq_of_context {vector : Option Embedding}
    (h : engine.provider.context mode engine.database (question.withVector vector)
      = engine.provider.context mode engine.database question) :
    engine.ask mode (question.withVector vector) = engine.ask mode question := by
  funext state
  refine ask_apply_of_context (question.text_withVector vector question.embedding) ?_
  rw [tableContext_eq, h, ← tableContext_eq]
  rfl

end TableEngine

/-! ### The tables of an index -/

namespace TableIndex

variable (index : TableIndex) (model : EmbeddingModel σ) (topK : Nat) (mode : CallMode)
  (question : Question)

/-- The tables that an index finds for a vector. -/
def found (v : Embedding) : Except Failure (List TableSchema) :=
  (VectorStore.search index v topK).map fun hits => hits.map (·.document.payload)

/-- With a vector the model is not asked. -/
lemma retrieve_of_vector (v : Embedding) :
    (index.retriever model topK).retrieve mode (question.withVector (some v))
      = Session.ofExcept (index.found topK v) := by
  have hvector : questionVector model mode (question.withVector (some v)) = pure v :=
    questionVector_eq ..
  rw [retriever_retrieve, hvector, pure_bind, closest, found]
  cases VectorStore.search index v topK <;> rfl

variable {index model topK mode question}

/-- Without one the model is asked first, and its vector is used instead. -/
lemma retrieve_of_words {state reached : σ} {v : Embedding}
    (h : model.ofQuestion mode question.text state = (.ok v, reached)) :
    (index.retriever model topK).retrieve mode (question.withVector none) state
      = (index.retriever model topK).retrieve mode (question.withVector (some v)) reached := by
  have hasked : questionVector model mode (question.withVector none) state = (.ok v, reached) :=
    (congrFun (questionVector_eq ..) state).trans h
  have hknown : questionVector model mode (question.withVector (some v)) = pure v :=
    questionVector_eq ..
  rw [retriever_retrieve, retriever_retrieve, hknown, pure_bind, Session.bind_eq_andThen,
    Session.andThen_of_ok hasked]

/-- If the model fails, so does the retrieval. -/
lemma retrieve_of_failure {state reached : σ} {failure : Failure}
    (h : model.ofQuestion mode question.text state = (.error failure, reached)) :
    (index.retriever model topK).retrieve mode (question.withVector none) state
      = (.error failure, reached) := by
  have hasked : questionVector model mode (question.withVector none) state
      = (.error failure, reached) :=
    (congrFun (questionVector_eq ..) state).trans h
  rw [retriever_retrieve, Session.bind_eq_andThen, Session.andThen_of_error hasked]

end TableIndex

/-! ### Engines over an index -/

namespace TableEngine

variable (engine : TableEngine σ) (index : TableIndex) (model : EmbeddingModel σ) (topK : Nat)
  (heading : Option String) (mode : CallMode) (question : Question)

/-- The engine over the tables of an index, with all calls recorded. -/
def watchedIndex : TableEngine (Watched σ) := engine.watchedOver (.index index model topK heading)

/-- Its tables are described once they are retrieved. -/
lemma watchedIndex_context :
    (engine.watchedIndex index model topK heading).tableContext mode question
      = (index.retriever model.watched topK).retrieve mode question >>= fun tables =>
          ContextProvider.describeAll engine.database.watched
            (tables.map fun table => (table.name, ContextProvider.noteOf table)) >>= fun blocks =>
              pure (joinBlocks (heading.toList ++ blocks)) :=
  (tableContext_eq ..).trans (ContextProvider.retrieved_context ..)

variable {engine index model topK heading mode question}

/-- Vectors for which the same tables are found make no difference. -/
lemma watchedIndex_ask_of_found {v w : Embedding} (h : index.found topK v = index.found topK w) :
    (engine.watchedIndex index model topK heading).ask mode (question.withVector (some v))
      = (engine.watchedIndex index model topK heading).ask mode (question.withVector (some w)) := by
  funext state
  refine ask_apply_of_context (question.text_withVector _ _) ?_
  rw [watchedIndex_context, watchedIndex_context, TableIndex.retrieve_of_vector,
    TableIndex.retrieve_of_vector, h]

/-- With a vector it does not matter which model there is. -/
lemma watchedIndex_ask_of_vector (model' : EmbeddingModel σ) (v : Embedding) :
    (engine.watchedIndex index model topK heading).ask mode (question.withVector (some v))
      = (engine.watchedIndex index model' topK heading).ask mode
        (question.withVector (some v)) := by
  rw [ask_eq_askOver, ask_eq_askOver, watchedIndex_context, watchedIndex_context,
    TableIndex.retrieve_of_vector, TableIndex.retrieve_of_vector]
  rfl

/-- The call to the model by which a question without a vector gets one. -/
def vectorCall (mode : CallMode) (question : Question) (outcome : Except Failure Embedding) :
    Call :=
  ⟨.questionVector mode question.text, outcome⟩

/-- A vector stands in for the model: without it the model is asked first, and what it says is used
like a vector that was brought along. -/
lemma watchedIndex_ask_of_words {state reached : σ} {v : Embedding}
    (h : model.ofQuestion mode question.text state = (.ok v, reached)) (calls : List Call) :
    (engine.watchedIndex index model topK heading).ask mode (question.withVector none)
        (state, calls)
      = (engine.watchedIndex index model topK heading).ask mode (question.withVector (some v))
          (reached, calls ++ [vectorCall mode question (.ok v)]) := by
  refine ask_apply_of_context (question.text_withVector _ _) ?_
  rw [watchedIndex_context, watchedIndex_context]
  have hasked : model.watched.ofQuestion mode question.text (state, calls)
      = (.ok v, reached, calls ++ [vectorCall mode question (.ok v)]) :=
    (Session.watched_recorded (.questionVector mode question.text) _).apply_of h
  exact Session.bind_apply_congr (TableIndex.retrieve_of_words hasked) _

/-- If the model fails, so does the run. -/
lemma watchedIndex_ask_of_failure {state reached : σ} {failure : Failure}
    (h : model.ofQuestion mode question.text state = (.error failure, reached))
    (calls : List Call) :
    (engine.watchedIndex index model topK heading).ask mode (question.withVector none)
        (state, calls)
      = (.error failure, reached, calls ++ [vectorCall mode question (.error failure)]) := by
  have hasked : model.watched.ofQuestion mode question.text (state, calls)
      = (.error failure, reached, calls ++ [vectorCall mode question (.error failure)]) :=
    (Session.watched_recorded (.questionVector mode question.text) _).apply_of h
  refine ask_of_context_failure ?_
  rw [watchedIndex_context]
  exact Session.andThen_of_error (TableIndex.retrieve_of_failure hasked)

end TableEngine

/-! ### What a vector changes -/

/-- A provider describes the tables for the words of a question, whatever vector comes with them. -/
def ContextProvider.IgnoresVector (provider : ContextProvider σ) (db : Database σ) : Prop :=
  ∀ mode (question : Question) vector,
    provider.context mode db (question.withVector vector) = provider.context mode db question

/-- What a vector changes in the run of an engine: nothing, unless the tables come from an index.
All runs of watched engines are compared with their records. -/
structure VectorOnlyRetrieves (σ : Type) (mode : CallMode) (question : Question)
    (vector : Option Embedding) : Prop where
  /-- Over tables that the caller chose, with vectors filled into statements or not. -/
  selected : ∀ (engine : TableEngine σ) refs notes,
    (engine.watched (.selected refs notes)).ask mode (question.withVector vector)
      = (engine.watched (.selected refs notes)).ask mode question
  /-- Over all tables. -/
  all : ∀ (engine : TableEngine σ) notes,
    (engine.watched (.all notes)).ask mode (question.withVector vector)
      = (engine.watched (.all notes)).ask mode question
  /-- Over any other provider that does not look at the vector. -/
  other : ∀ engine : TableEngine σ, engine.provider.IgnoresVector engine.database →
    engine.ask mode (question.withVector vector) = engine.ask mode question
  /-- Over a prepared description of the tables. -/
  narrative : ∀ engine : NarrativeEngine σ,
    engine.watched.ask mode (question.withVector vector) = engine.watched.ask mode question
  /-- Where the words themselves are the statement. -/
  direct : ∀ engine : DirectEngine σ,
    engine.watched.askBy mode (question.withVector vector) = engine.watched.askBy mode question
  /-- Over an index, another vector for which the same tables are found makes no difference. -/
  found : ∀ (engine : TableEngine σ) (index : TableIndex) model topK heading v w,
    index.found topK v = index.found topK w →
    (engine.watchedIndex index model topK heading).ask mode (question.withVector (some v))
      = (engine.watchedIndex index model topK heading).ask mode (question.withVector (some w))
  /-- The model that embeds questions for the index is not asked then, whichever it is. -/
  unasked : ∀ (engine : TableEngine σ) (index : TableIndex) model model' topK heading v,
    (engine.watchedIndex index model topK heading).ask mode (question.withVector (some v))
      = (engine.watchedIndex index model' topK heading).ask mode (question.withVector (some v))
  /-- And without a vector the model is asked first: its vector is then used like one that was
  brought along, and its failure ends the run. -/
  words : ∀ (engine : TableEngine σ) index (model : EmbeddingModel σ) topK heading state calls,
    (engine.watchedIndex index model topK heading).ask mode (question.withVector none)
        (state, calls)
      = match model.ofQuestion mode question.text state with
        | (.ok v, reached) =>
            (engine.watchedIndex index model topK heading).ask mode (question.withVector (some v))
              (reached, calls ++ [TableEngine.vectorCall mode question (.ok v)])
        | (.error failure, reached) =>
            (.error failure, reached,
              calls ++ [TableEngine.vectorCall mode question (.error failure)])

/-- **A vector only chooses tables.** Two questions of the same words with different vectors, or
without, are answered alike by all engines, with the same calls, unless the tables come from an
index. There the vector is searched for in place of the one that the model would give. -/
theorem ask_vectorOnlyRetrieves (σ : Type) (mode : CallMode) (question : Question)
    (vector : Option Embedding) : VectorOnlyRetrieves σ mode question vector where
  selected engine refs notes := TableEngine.ask_eq_of_context (by
    simp only [TableEngine.watched, TableSource.watched, TableSource.provider,
      ContextProvider.selected_context])
  all engine notes := TableEngine.ask_eq_of_context (by
    simp only [TableEngine.watched, TableSource.watched, TableSource.provider,
      ContextProvider.all_context])
  other engine h := TableEngine.ask_eq_of_context (h mode question vector)
  narrative engine := by cases mode <;> rfl
  direct engine := by cases mode <;> rfl
  found engine index model topK heading v w h := TableEngine.watchedIndex_ask_of_found h
  unasked engine index model model' topK heading v :=
    TableEngine.watchedIndex_ask_of_vector model' v
  words engine index model topK heading state calls := by
    rcases hrun : model.ofQuestion mode question.text state with ⟨failure | v, reached⟩
    · exact TableEngine.watchedIndex_ask_of_failure hrun calls
    · exact TableEngine.watchedIndex_ask_of_words hrun calls

/-! ### A shop with two tables -/

/-- A database that has the same to say of each table, and the same result for each statement. -/
def shopDatabase : Database Unit where
  dialect := "mock"
  usableTables := .done ["users", "orders"]
  describe table := .done ("Table '" ++ table ++ "' has columns: id (INTEGER)")
  run _ := .done ⟨"[(1,)]", .empty⟩

/-- An engine over it whose model knows one statement. -/
def shopEngine : TableEngine Unit where
  database := shopDatabase
  provider := .all .empty
  reader := .plain
  sqlPrompt := .textToSql
  synthesisPrompt := .sqlSynthesisV2
  synthesize := false
  responseMode := .compact
  llm := ⟨fun _ _ _ => .done "SELECT 1"⟩

/-- The document of one of its tables. -/
def usersDocument : Document TableSchema :=
  ⟨"table:users", "Schema of table users", ⟨"users", none⟩, [0, 1]⟩

/-- The document of the other one, which points the other way. -/
def ordersDocument : Document TableSchema :=
  ⟨"table:orders", "Schema of table orders", ⟨"orders", none⟩, [1, 0]⟩

/-- Both documents. -/
def shopIndex : TableIndex := ({} : TableIndex).addAll [usersDocument, ordersDocument]

/-- A model that sees an order in every question. -/
def orderModel : EmbeddingModel Unit := .ofQuestions fun _ => .done [1, 0]

/-- A question about them. -/
def largestOrder : Question := { text := "largest order" }

lemma mergeSort_pair {α : Type} (le : α → α → Bool) (a b : α) :
    [a, b].mergeSort le = if le a b then [a, b] else [b, a] := by
  simp [List.mergeSort, List.MergeSort.Internal.splitInTwo, List.merge]

/-- A search for one table compares the two. -/
lemma shopIndex_search {v : Embedding} (h : v.length = 2) :
    VectorStore.search shopIndex v 1
      = .ok (([⟨usersDocument, Embedding.similarity v [0, 1]⟩,
          ⟨ordersDocument, Embedding.similarity v [1, 0]⟩].mergeSort Match.closer).take 1) :=
  if_pos h

/-- In each direction one table is found. -/
lemma shopIndex_found :
    shopIndex.found 1 [1, 0] = .ok [⟨"orders", none⟩]
      ∧ shopIndex.found 1 [0, 1] = .ok [⟨"users", none⟩] := by
  constructor
  · have horders : ¬ Match.closer ⟨usersDocument, Embedding.similarity [1, 0] [0, 1]⟩
        ⟨ordersDocument, Embedding.similarity [1, 0] [1, 0]⟩ = true := by
      decide +kernel
    rw [TableIndex.found, shopIndex_search rfl, mergeSort_pair, if_neg horders]
    rfl
  · have husers : Match.closer ⟨usersDocument, Embedding.similarity [0, 1] [0, 1]⟩
        ⟨ordersDocument, Embedding.similarity [0, 1] [1, 0]⟩ = true := by
      decide +kernel
    rw [TableIndex.found, shopIndex_search rfl, mergeSort_pair, if_pos husers]
    rfl

/-- The run of the engine over the index, after some calls, for the question with a vector or
without. -/
def shopRun (calls : List Call) (vector : Option Embedding) :
    Except Failure Answer × Watched Unit :=
  (shopEngine.watchedIndex shopIndex orderModel 1 none).ask .blocking
    (largestOrder.withVector vector) ((), calls)

/-- What is asked for once a table has been found: the table is described, and a statement is
written and run. -/
def shopRequests (table : String) : List Request :=
  [.structureOf table,
    .completion .blocking .textToSql [("query_str", "largest order"),
      ("schema", "Table '" ++ table ++ "' has columns: id (INTEGER)"), ("dialect", "mock")],
    .execution "SELECT 1"]

/-- With a vector that finds a table, this is all. -/
lemma shopRun_of_found {v : Embedding} {table : String}
    (h : shopIndex.found 1 v = .ok [⟨table, none⟩]) (calls : List Call) :
    (∃ answer, (shopRun calls (some v)).1 = .ok answer)
      ∧ (shopRun calls (some v)).2.2.map Call.request
        = calls.map Call.request ++ shopRequests table := by
  have hstatement : Statement.ofCompletion "SELECT 1" = "SELECT 1" := by decide
  rw [shopRun, TableEngine.ask_eq_askOver, TableEngine.watchedIndex_context,
    TableIndex.retrieve_of_vector, h]
  refine ⟨⟨_, rfl⟩, ?_⟩
  show List.map Call.request (((calls ++ [⟨.structureOf table, _⟩])
    ++ [⟨.completion .blocking _ _, _⟩])
    ++ [⟨.execution (Statement.ofCompletion "SELECT 1"), _⟩]) = _
  rw [List.append_assoc, List.append_assoc, List.map_append, hstatement]
  rfl

/-- A vector steers which table the model is shown, and may even prevent an answer: of the same
words without a vector, with one that points the other way and with one that does not fit, the first
shows one table, the second shows the other one, and the third is not answered. -/
theorem shopEngine_readsVector :
    (∃ answer, (shopRun [] none).1 = .ok answer)
      ∧ (shopRun [] none).2.2.map Call.request
        = .questionVector .blocking "largest order" :: shopRequests "orders"
      ∧ (shopRun [] (some [0, 1])).2.2.map Call.request = shopRequests "users"
      ∧ shopRun [] (some [1]) = (.error (.embedding (.wrongDimension 1 2)), (), [])
      ∧ ¬ ∀ vector, (shopRun [] vector).1 = (shopRun [] none).1 := by
  obtain ⟨horders, husers⟩ := shopIndex_found
  have hwords : shopRun [] none
      = shopRun [TableEngine.vectorCall .blocking largestOrder (.ok [1, 0])] (some [1, 0]) :=
    TableEngine.watchedIndex_ask_of_words rfl []
  obtain ⟨⟨answer, hanswer⟩, hrequests⟩ := shopRun_of_found horders
    [TableEngine.vectorCall .blocking largestOrder (.ok [1, 0])]
  have hunfit : shopRun [] (some [1]) = (.error (.embedding (.wrongDimension 1 2)), (), []) := rfl
  rw [hwords]
  refine ⟨⟨answer, hanswer⟩, hrequests, (shopRun_of_found husers []).2, hunfit, fun hsame => ?_⟩
  have hfailed := hsame (some [1])
  rw [hunfit, hanswer] at hfailed
  cases hfailed

end AskSql
