import AskSql.Proofs.Calls.Alike
import AskSql.Proofs.Statement.Filling

/-!
The blocking and the asynchronous paths of the engines.

Every stage of a question is written twice, for both entry points. Here each of them is shown to go
alike over collaborators that answer alike, whichever of its copies is taken, so that an engine goes
alike as a whole, and with it a series of questions that are put to it one after the other. Two
comparisons are made in this way: of a run under watch with the same run without, and of a run
through any entry points with one that is blocking throughout.

* `TableEngine.Alike`, `NarrativeEngine.Alike`, `DirectEngine.Alike`: engines over collaborators
  that answer alike, and `TableEngine.Alike.ask` and its like, by which they answer alike.
* `TableSupply`: where the tables come from, an index of their documents included.
* `answerAll`, `callsOf`: the answers to a series of questions, and the calls for each of them.
* `Defaults`: collaborators that leave an entry point to its default.
* `ModesAgree`, `ask_modesAgree`: the entry point of a question makes no difference but in the names
  of the calls.
-/

namespace AskSql

variable {σ τ : Type} {R : σ → τ → Prop} {mode mode' : CallMode}

/-! ### The stages -/

section Stages

variable {db : Database σ} {db' : Database τ}

lemma Database.Alike.describeTable (h : db.Alike R db') (table : String × Option String) :
    Session.Alike R (describeTable db table.1 table.2) (describeTable db' table.1 table.2) :=
  (h.describe table.1).bind fun _ => .pure _

lemma Database.Alike.describeAll (h : db.Alike R db') (tables : List (String × Option String)) :
    Session.Alike R (ContextProvider.describeAll db tables)
      (ContextProvider.describeAll db' tables) :=
  .each h.describeTable tables

lemma Database.Alike.runRecorded (h : db.Alike R db') (sql : String) :
    Session.Alike R (db.runRecorded sql) (db'.runRecorded sql) :=
  (h.run sql).bind fun _ => .pure _

namespace ContextProvider

lemma selected_alike (h : db.Alike R db') (tables : List TableRef) (notes : Dictionary String) :
    Alike R mode mode' db db' (selected tables notes) (selected tables notes) := by
  intro question
  rw [selected_context, selected_context]
  exact (h.describeAll _).bind fun _ => .pure _

lemma all_alike (h : db.Alike R db') (notes : Dictionary String) :
    Alike R mode mode' db db' (all notes) (all notes) := by
  intro question
  rw [all_context, all_context]
  exact h.usableTables.bind fun _ => (h.describeAll _).bind fun _ => .pure _

lemma retrieved_alike (h : db.Alike R db') {retriever : SchemaRetriever σ}
    {retriever' : SchemaRetriever τ} (hretriever : retriever.Alike R mode mode' retriever')
    (heading : Option String) :
    Alike R mode mode' db db' (retrieved retriever heading) (retrieved retriever' heading) := by
  intro question
  rw [retrieved_context, retrieved_context]
  exact (hretriever question).bind fun _ => (h.describeAll _).bind fun _ => .pure _

end ContextProvider

/-- The vector of a question is asked for unless it is known. -/
lemma TableIndex.questionVector_alike {model : EmbeddingModel σ} {model' : EmbeddingModel τ}
    (h : model.Alike R mode mode' model') (question : Question) :
    Session.Alike R (questionVector model mode question)
      (questionVector model' mode' question) := by
  rw [questionVector_eq, questionVector_eq]
  cases question.embedding with
  | none => exact h question.text
  | some v => exact .pure v

lemma TableIndex.retriever_alike (index : TableIndex) {model : EmbeddingModel σ}
    {model' : EmbeddingModel τ} (h : model.Alike R mode mode' model') (topK : Nat) :
    (index.retriever model topK).Alike R mode mode' (index.retriever model' topK) := by
  intro question
  rw [retriever_retrieve, retriever_retrieve]
  exact (questionVector_alike h question).bind fun _ =>
    (Session.Alike.ofExcept _).bind fun _ => .pure _

lemma StatementReader.Alike.read {reader : StatementReader σ} {reader' : StatementReader τ}
    (h : reader.Alike R mode mode' reader') (completion : String) (question : Question) :
    Session.Alike R (reader.read mode completion question)
      (reader'.read mode' completion question) := by
  cases h with
  | plain =>
      rw [StatementReader.read_plain, StatementReader.read_plain]
      exact .pure _
  | vector h =>
      rw [StatementReader.read_vector, StatementReader.read_vector]
      by_cases hplace : Statement.HasPlace (Statement.ofCompletion completion)
      · rw [Statement.fillVector_of_place hplace, Statement.fillVector_of_place hplace]
        exact (h question.text).bind fun _ => .pure _
      · rw [Statement.fillVector_of_no_place hplace, Statement.fillVector_of_no_place hplace]
        exact .pure _

lemma LanguageModel.Alike.synthesize {llm : LanguageModel σ} {llm' : LanguageModel τ}
    (h : llm.Alike R mode mode' llm') (responseMode : ResponseMode) (prompt : Prompt)
    (question : String) (sources : List SourceNode) :
    Session.Alike R
      ((Synthesizer.ofMode responseMode llm prompt).synthesize mode question sources)
      ((Synthesizer.ofMode responseMode llm' prompt).synthesize mode' question sources) := by
  cases responseMode with
  | compact =>
      simp only [Synthesizer.ofMode, Synthesizer.compact_synthesize]
      exact ((h prompt _).mapFailure Failure.inSynthesis).bind fun _ => .pure _
  | noText =>
      simp only [Synthesizer.ofMode, Synthesizer.noText_synthesize]
      exact .pure _

end Stages

/-! ### The engines -/

/-- Engines with the same prompts and decisions, over collaborators that answer alike. -/
structure TableEngine.Alike (R : σ → τ → Prop) (mode mode' : CallMode) (first : TableEngine σ)
    (second : TableEngine τ) : Prop where
  database : first.database.Alike R second.database
  provider : first.provider.Alike R mode mode' first.database second.database second.provider
  reader : first.reader.Alike R mode mode' second.reader
  llm : first.llm.Alike R mode mode' second.llm
  sqlPrompt : first.sqlPrompt = second.sqlPrompt
  synthesisPrompt : first.synthesisPrompt = second.synthesisPrompt
  synthesize : first.synthesize = second.synthesize
  responseMode : first.responseMode = second.responseMode

namespace TableEngine.Alike

variable {first : TableEngine σ} {second : TableEngine τ}

lemma generate (h : first.Alike R mode mode' second) (question : Question) (tables : String) :
    Session.Alike R (first.generate mode question tables)
      (second.generate mode' question tables) := by
  rw [generate_eq, generate_eq, h.sqlPrompt, h.database.dialect]
  exact h.llm _ _

lemma respond (h : first.Alike R mode mode' second) (question : Question) (sql : String)
    (result : Execution) :
    Session.Alike R (first.respond mode question sql result)
      (second.respond mode' question sql result) := by
  rw [respond_eq, respond_eq, synthesizer, synthesizer, h.synthesize, h.responseMode,
    h.synthesisPrompt]
  split
  · exact (h.llm.synthesize _ _ _ _).bind fun _ => .pure _
  · exact .pure _

/-- Such engines answer alike. -/
theorem ask (h : first.Alike R mode mode' second) (question : Question) :
    Session.Alike R (first.ask mode question) (second.ask mode' question) := by
  rw [ask_eq, ask_eq, tableContext_eq, tableContext_eq]
  exact (h.provider question).bind fun tables => (h.generate question tables).bind fun completion =>
    (h.reader.read completion question).bind fun sql => (h.database.runRecorded sql).bind
      fun result => h.respond question sql result

end TableEngine.Alike

/-- Engines with the same prompts and decisions and the same description of the tables, over
collaborators that answer alike. -/
structure NarrativeEngine.Alike (R : σ → τ → Prop) (mode mode' : CallMode)
    (first : NarrativeEngine σ) (second : NarrativeEngine τ) : Prop where
  database : first.database.Alike R second.database
  llm : first.llm.Alike R mode mode' second.llm
  container : first.container = second.container
  sqlPrompt : first.sqlPrompt = second.sqlPrompt
  synthesisPrompt : first.synthesisPrompt = second.synthesisPrompt
  synthesize : first.synthesize = second.synthesize

namespace NarrativeEngine.Alike

variable {first : NarrativeEngine σ} {second : NarrativeEngine τ}

lemma phrase (h : first.Alike R mode mode' second) (question : Question) (sql : String)
    (result : Execution) :
    Session.Alike R (first.phrase mode question sql result)
      (second.phrase mode' question sql result) := by
  rw [phrase_eq, phrase_eq, h.synthesize, h.synthesisPrompt]
  split
  · exact h.llm _ _
  · exact .pure _

/-- Such engines answer alike. -/
theorem ask (h : first.Alike R mode mode' second) (question : Question) :
    Session.Alike R (first.ask mode question) (second.ask mode' question) := by
  rw [ask_eq, ask_eq, h.container, h.sqlPrompt, h.database.dialect]
  exact (Session.Alike.ofExcept _).bind fun _ => (h.llm _ _).bind fun _ =>
    (h.database.runRecorded _).bind fun result => (h.phrase question _ result).bind fun _ =>
      .pure _

end NarrativeEngine.Alike

/-- Engines over databases that answer alike. -/
structure DirectEngine.Alike (R : σ → τ → Prop) (first : DirectEngine σ)
    (second : DirectEngine τ) : Prop where
  database : first.database.Alike R second.database

/-- Such engines answer alike. -/
theorem DirectEngine.Alike.askBy {first : DirectEngine σ} {second : DirectEngine τ}
    (h : first.Alike R second) (mode mode' : CallMode) (question : Question) :
    Session.Alike R (first.askBy mode question) (second.askBy mode' question) := by
  rw [DirectEngine.askBy_eq, DirectEngine.askBy_eq]
  exact (h.database.run question.text).bind fun _ => .pure _

/-! ### Where the tables come from -/

/-- A source of table descriptions, or an index of their documents with the model that embeds the
questions. -/
inductive TableSupply (σ : Type) where
  | source (origin : TableSource σ)
  /-- The `topK` closest tables of an index, under an optional heading. -/
  | index (tables : TableIndex) (model : EmbeddingModel σ) (topK : Nat) (heading : Option String)

namespace TableSupply

/-- The source that a supply comes down to. -/
def asSource : TableSupply σ → TableSource σ
  | .source origin => origin
  | .index tables model topK heading => .retrieved (tables.retriever model topK) heading

/-- The source with its calls recorded; for an index these are the calls to its model. -/
def watched (db : Database σ) : TableSupply σ → TableSource (Watched σ)
  | .source origin => origin.watched db
  | .index tables model topK heading => .retrieved (tables.retriever model.watched topK) heading

/-- The asynchronous entry points of what the tables come from behave like the blocking ones. -/
def Even (db : Database σ) : TableSupply σ → Prop
  | .source (.selected _ _) => True
  | .source (.all _) => True
  | .source (.retrieved retriever _) => retriever.Even
  | .source (.other provider) =>
      ∀ question, provider.context .async db question = provider.context .blocking db question
  | .index _ model _ _ => model.Even

/-- Under watch the tables are described as they are otherwise. -/
lemma watched_sameRun (supply : TableSupply σ) (db : Database σ) (mode : CallMode) :
    (supply.watched db).provider.Alike SameRun mode mode db.watched db
      supply.asSource.provider := by
  have hdb := db.watched_sameRun
  cases supply with
  | source origin =>
      cases origin with
      | selected tables notes => exact ContextProvider.selected_alike hdb tables notes
      | all notes => exact ContextProvider.all_alike hdb notes
      | retrieved retriever heading =>
          exact ContextProvider.retrieved_alike hdb (retriever.watched_sameRun mode) heading
      | other provider =>
          exact fun question =>
            (Session.watched_recorded (.description mode question) _).sameRun
  | index tables model topK heading =>
      have hindex := tables.retriever_alike (model.watched_sameRun mode) topK
      exact ContextProvider.retrieved_alike hdb hindex heading

/-- Through both entry points the tables are described alike. -/
lemma Even.watched_renamed {supply : TableSupply σ} {db : Database σ} (h : supply.Even db)
    (before : List Call) (mode : CallMode) :
    (supply.watched db).provider.Alike (Renamed before mode) mode .blocking db.watched db.watched
      (supply.watched db).provider := by
  have hdb := Database.watched_renamed before mode db
  cases supply with
  | source origin =>
      cases origin with
      | selected tables notes => exact ContextProvider.selected_alike hdb tables notes
      | all notes => exact ContextProvider.all_alike hdb notes
      | retrieved retriever heading =>
          exact ContextProvider.retrieved_alike hdb
            (SchemaRetriever.Even.watched_renamed before mode h) heading
      | other provider =>
          intro question
          have hsame := CallMode.eq_blocking (provider.context · db question) (h question) mode
          exact (Session.watched_recorded (.description mode question) _).renamed
            (Session.watched_recorded (.description .blocking question) _) hsame (fun _ => rfl)
            before
  | index tables model topK heading =>
      have hindex := tables.retriever_alike
        (EmbeddingModel.Even.watched_renamed before mode h) topK
      exact ContextProvider.retrieved_alike hdb hindex heading

end TableSupply

/-- The engine with its tables from a supply, with all calls recorded. -/
def TableEngine.watchedOver (engine : TableEngine σ) (supply : TableSupply σ) :
    TableEngine (Watched σ) :=
  (engine.watched supply.asSource).over (supply.watched engine.database)

/-- The engine that runs the words of a question, with all calls recorded. -/
def DirectEngine.watched (engine : DirectEngine σ) : DirectEngine (Watched σ) where
  database := engine.database.watched
  container := engine.container

/-! ### A series of questions -/

/-- A question with the entry point that it is put through. -/
abbrev Asked : Type := CallMode × Question

/-- The same question, put through the blocking entry point. -/
def Asked.blocking (asked : Asked) : Asked := (.blocking, asked.2)

/-- The answers to questions that are put one after the other, and the state that is reached. A
failure is the answer to its own question only. -/
def answerAll (ask : CallMode → Question → Session σ Answer) :
    List Asked → σ → List (Except Failure Answer) × σ
  | [], state => ([], state)
  | (mode, question) :: rest, state =>
      let (answer, reached) := ask mode question state
      let (answers, last) := answerAll ask rest reached
      (answer :: answers, last)

/-- The calls that are made for each of the questions. -/
def callsOf (ask : CallMode → Question → Session (Watched σ) Answer) :
    List Asked → σ → List (List Call)
  | [], _ => []
  | (mode, question) :: rest, state =>
      let (_, reached, calls) := ask mode question (state, [])
      calls :: callsOf ask rest reached

/-- What the entry points of a series of questions decide, for an engine and the same one under
watch: nothing but through which entry points the calls are made. -/
structure ModesAgree (ask : CallMode → Question → Session σ Answer)
    (watchedAsk : CallMode → Question → Session (Watched σ) Answer) (asked : List Asked)
    (state : σ) : Prop where
  /-- The answers and the state that is reached are those of the blocking entry points. -/
  same : answerAll ask asked state = answerAll ask (asked.map Asked.blocking) state
  /-- The record is one of this run. -/
  record : answerAll watchedAsk asked (state, [])
    = ((answerAll ask asked state).1, (answerAll ask asked state).2,
        (callsOf watchedAsk asked state).flatten)
  /-- The calls for each question are those of the blocking entry points, renamed. -/
  calls : callsOf watchedAsk asked state
    = List.zipWith (fun asked calls => calls.map (Call.inMode asked.1)) asked
        (callsOf watchedAsk (asked.map Asked.blocking) state)

section Series

variable {ask : CallMode → Question → Session σ Answer}
  {watchedAsk : CallMode → Question → Session (Watched σ) Answer}
  (hsame : ∀ mode question, Session.Alike SameRun (watchedAsk mode question) (ask mode question))
  (hrenamed : ∀ before mode question, Session.Alike (Renamed before mode)
    (watchedAsk mode question) (watchedAsk .blocking question))

include hsame hrenamed

/-- One question, on its own and after others: the answer and the state are those of the blocking
entry point, and the record grows by the calls made there, renamed. -/
lemma watchedAsk_eq (mode : CallMode) (question : Question) (state : σ) (before : List Call) :
    watchedAsk mode question (state, before)
      = ((ask .blocking question state).1, (ask .blocking question state).2,
          before ++ (watchedAsk .blocking question (state, [])).2.2.map (Call.inMode mode)) := by
  obtain ⟨hresult, hstate, hcalls⟩ :=
    hrenamed before mode question (state, before) (state, []) ⟨rfl, by simp⟩
  obtain ⟨hplain, hreached⟩ := hsame .blocking question (state, []) state rfl
  rw [hplain] at hresult
  rw [show (watchedAsk .blocking question (state, [])).2.1 = _ from hreached] at hstate
  exact Prod.ext hresult (Prod.ext hstate hcalls)

/-- The answer to one question and the state do not depend on the entry point. -/
lemma ask_eq_blocking (mode : CallMode) (question : Question) (state : σ) :
    ask mode question state = ask .blocking question state := by
  obtain ⟨hplain, hreached⟩ := hsame mode question (state, []) state rfl
  rw [watchedAsk_eq hsame hrenamed mode question state []] at hplain hreached
  exact (Prod.ext hplain hreached).symm

/-- A question after others adds the calls that are made for it on its own. -/
lemma watchedAsk_append (mode : CallMode) (question : Question) (state : σ) (before : List Call) :
    watchedAsk mode question (state, before)
      = ((ask mode question state).1, (ask mode question state).2,
          before ++ (watchedAsk mode question (state, [])).2.2) := by
  rw [watchedAsk_eq hsame hrenamed mode question state [],
    watchedAsk_eq hsame hrenamed mode question state before,
    ask_eq_blocking hsame hrenamed mode question state, List.nil_append]

/-- A series of questions is answered as through the blocking entry points. -/
lemma answerAll_eq_blocking (asked : List Asked) (state : σ) :
    answerAll ask asked state = answerAll ask (asked.map Asked.blocking) state := by
  induction asked generalizing state with
  | nil => rfl
  | cons first rest ih =>
      obtain ⟨mode, question⟩ := first
      simp only [answerAll, List.map_cons, Asked.blocking]
      rw [ask_eq_blocking hsame hrenamed mode question state, ih]

/-- The record of a series consists of the calls for each question, in order. -/
lemma answerAll_watched (asked : List Asked) (state : σ) (before : List Call) :
    answerAll watchedAsk asked (state, before)
      = ((answerAll ask asked state).1, (answerAll ask asked state).2,
          before ++ (callsOf watchedAsk asked state).flatten) := by
  induction asked generalizing state before with
  | nil => simp [answerAll, callsOf]
  | cons first rest ih =>
      obtain ⟨mode, question⟩ := first
      simp only [answerAll, callsOf, List.flatten_cons]
      rw [watchedAsk_append hsame hrenamed mode question state before,
        watchedAsk_append hsame hrenamed mode question state [], ih, List.nil_append,
        List.append_assoc]

/-- The calls for each question are those of the blocking entry points, renamed. -/
lemma callsOf_eq_renamed (asked : List Asked) (state : σ) :
    callsOf watchedAsk asked state
      = List.zipWith (fun asked calls => calls.map (Call.inMode asked.1)) asked
          (callsOf watchedAsk (asked.map Asked.blocking) state) := by
  induction asked generalizing state with
  | nil => rfl
  | cons first rest ih =>
      obtain ⟨mode, question⟩ := first
      have hreached : (watchedAsk .blocking question (state, [])).2.1
          = (ask .blocking question state).2 := (hsame .blocking question (state, []) state rfl).2
      simp only [callsOf, List.map_cons, Asked.blocking, List.zipWith_cons_cons]
      rw [watchedAsk_eq hsame hrenamed mode question state [], List.nil_append, hreached, ih]

lemma modesAgree (asked : List Asked) (state : σ) : ModesAgree ask watchedAsk asked state where
  same := answerAll_eq_blocking hsame hrenamed asked state
  record := answerAll_watched hsame hrenamed asked state []
  calls := callsOf_eq_renamed hsame hrenamed asked state

end Series

/-! ### The engines agree -/

/-- Under watch the engine goes as it does otherwise. -/
lemma TableEngine.watchedOver_sameRun (engine : TableEngine σ) (supply : TableSupply σ)
    (mode : CallMode) :
    (engine.watchedOver supply).Alike SameRun mode mode (engine.over supply.asSource) where
  database := engine.database.watched_sameRun
  provider := supply.watched_sameRun engine.database mode
  reader := engine.reader.watched_sameRun mode
  llm := engine.llm.watched_sameRun mode
  sqlPrompt := rfl
  synthesisPrompt := rfl
  synthesize := rfl
  responseMode := rfl

/-- Through both entry points it goes alike. -/
lemma TableEngine.watchedOver_renamed {engine : TableEngine σ} {supply : TableSupply σ}
    (hllm : engine.llm.Even) (hreader : engine.reader.Even) (hsupply : supply.Even engine.database)
    (before : List Call) (mode : CallMode) :
    (engine.watchedOver supply).Alike (Renamed before mode) mode .blocking
      (engine.watchedOver supply) where
  database := Database.watched_renamed before mode engine.database
  provider := hsupply.watched_renamed before mode
  reader := hreader.watched_renamed before mode
  llm := hllm.watched_renamed before mode
  sqlPrompt := rfl
  synthesisPrompt := rfl
  synthesize := rfl
  responseMode := rfl

lemma NarrativeEngine.watched_sameRun (engine : NarrativeEngine σ) (mode : CallMode) :
    engine.watched.Alike SameRun mode mode engine where
  database := engine.database.watched_sameRun
  llm := engine.llm.watched_sameRun mode
  container := rfl
  sqlPrompt := rfl
  synthesisPrompt := rfl
  synthesize := rfl

lemma NarrativeEngine.watched_renamed {engine : NarrativeEngine σ} (hllm : engine.llm.Even)
    (before : List Call) (mode : CallMode) :
    engine.watched.Alike (Renamed before mode) mode .blocking engine.watched where
  database := Database.watched_renamed before mode engine.database
  llm := hllm.watched_renamed before mode
  container := rfl
  sqlPrompt := rfl
  synthesisPrompt := rfl
  synthesize := rfl

/-- What the collaborators do that leave an entry point to its default. -/
structure Defaults (σ : Type) : Prop where
  /-- A model of completions is as even as its completions are. -/
  completions : ∀ complete : CallMode → String → Session σ String,
    (∀ text, complete .async text = complete .blocking text) →
      (LanguageModel.ofCompletion complete).Even
  /-- A model that embeds questions only is even, and embeds documents as if they were questions. -/
  questions : ∀ embed : String → Session σ Embedding, (EmbeddingModel.ofQuestions embed).Even
    ∧ (EmbeddingModel.ofQuestions embed).ofDocument
      = (EmbeddingModel.ofQuestions embed).ofQuestion .blocking
  /-- A retriever with a blocking entry point only is even. -/
  retrieval : ∀ retrieve : Question → Session σ (List TableSchema),
    (SchemaRetriever.ofBlocking retrieve).Even
  /-- So is a provider with a blocking entry point only. -/
  description : ∀ (context : Database σ → Question → Session σ String) (db : Database σ),
    (TableSupply.source (.other (.ofBlocking context))).Even db

lemma defaults : Defaults σ where
  completions complete h prompt bindings := by
    rw [LanguageModel.ofCompletion_predict, LanguageModel.ofCompletion_predict]
    simp only [h]
  questions embed := ⟨fun text => by simp, rfl⟩
  retrieval retrieve question := by simp
  description context db question := by simp

/-- **The paths agree.** If the asynchronous entry points of the collaborators behave like the
blocking ones, questions that are put to an engine one after the other, each through either path,
get the answers and failures of the blocking path, leave the collaborators in the same state, and
make the same calls, each named after the path of its question. Collaborators that have a blocking
entry point only, or a way to complete texts that is the same through both, behave so. -/
theorem ask_modesAgree (asked : List Asked) (state : σ) :
    (∀ (engine : TableEngine σ) (supply : TableSupply σ),
      engine.llm.Even → engine.reader.Even → supply.Even engine.database →
        ModesAgree (engine.over supply.asSource).ask (engine.watchedOver supply).ask asked state)
    ∧ (∀ engine : NarrativeEngine σ, engine.llm.Even →
        ModesAgree engine.ask engine.watched.ask asked state)
    ∧ (∀ engine : DirectEngine σ, ModesAgree engine.askBy engine.watched.askBy asked state)
    ∧ Defaults σ := by
  refine ⟨fun engine supply hllm hreader hsupply => ?_, fun engine hllm => ?_, fun engine => ?_,
    defaults⟩
  · exact modesAgree (fun mode => (engine.watchedOver_sameRun supply mode).ask)
      (fun before mode => (TableEngine.watchedOver_renamed hllm hreader hsupply before mode).ask)
      asked state
  · exact modesAgree (fun mode => (engine.watched_sameRun mode).ask)
      (fun before mode => (NarrativeEngine.watched_renamed hllm before mode).ask) asked state
  · have hsame : engine.watched.Alike SameRun engine := ⟨engine.database.watched_sameRun⟩
    have hrenamed : ∀ before mode, engine.watched.Alike (Renamed before mode) engine.watched :=
      fun before mode => ⟨Database.watched_renamed before mode engine.database⟩
    exact modesAgree (fun mode => hsame.askBy mode mode)
      (fun before mode => (hrenamed before mode).askBy mode .blocking) asked state

/-! ### Collaborators that tire -/

/-- A model that counts its calls and fails from the fourth one on. -/
def tiringModel : LanguageModel Nat where
  predict _ _ _ := fun calls =>
    if calls < 3 then
      (.ok "SQLQuery: SELECT name FROM city ORDER BY v <-> '[query_vector]'", calls + 1)
    else (.error (.llm (.reported "Too many calls")), calls + 1)

/-- A model whose vectors tell how often it was asked. -/
def countingEmbedding : EmbeddingModel Nat :=
  .ofQuestions fun _ calls => (.ok [Float32.ofNat calls], calls + 1)

/-- A database with one table. -/
def cityDatabase : Database Nat where
  dialect := "sqlite"
  usableTables := .done ["city"]
  describe _ := .done "Table 'city' has columns: name (TEXT)."
  run _ := .done ⟨"[('Oslo',)]", .empty⟩

/-- An engine that fills in vectors and lets the model phrase the answer. -/
def tiringTableEngine : TableEngine Nat where
  database := cityDatabase
  provider := .all .empty
  reader := .vector countingEmbedding
  sqlPrompt := .textToSqlVector
  synthesisPrompt := .sqlSynthesis
  synthesize := true
  responseMode := .compact
  llm := tiringModel

/-- An index with one document. -/
def cityIndex : TableSupply Nat :=
  .index { documents := [⟨"table:city", "city", ⟨"city", none⟩, [1]⟩], dimension := some 1 }
    countingEmbedding 1 none

/-- An engine over a prepared description. -/
def tiringNarrativeEngine : NarrativeEngine Nat where
  database := cityDatabase
  container := { text := some "Table 'city' has columns: name (TEXT)." }
  llm := tiringModel

/-- Questions through both entry points. -/
def bothWays : List Asked :=
  [(.async, { text := "Which city?" }), (.blocking, { text := "And now?" }),
    (.async, { text := "Still there?" })]

/-- Both engines agree with their blocking paths, also when the model begins to fail. -/
theorem bothWays_modesAgree :
    ModesAgree (tiringTableEngine.over cityIndex.asSource).ask
        (tiringTableEngine.watchedOver cityIndex).ask bothWays 0
      ∧ ModesAgree tiringNarrativeEngine.ask tiringNarrativeEngine.watched.ask bothWays 0 := by
  have hllm : tiringModel.Even := fun _ _ => rfl
  have hembedding : countingEmbedding.Even := fun _ => rfl
  obtain ⟨htable, hnarrative, -⟩ := ask_modesAgree bothWays 0
  exact ⟨htable tiringTableEngine cityIndex hllm hembedding hembedding,
    hnarrative tiringNarrativeEngine hllm⟩

end AskSql
