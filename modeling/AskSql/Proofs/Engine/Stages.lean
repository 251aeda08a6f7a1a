import AskSql.Proofs.Calls.Order
import AskSql.Proofs.Statement.Filling

/-!
The stages of a question.

A question passes its stages in one order: the tables are described, a model writes a statement, the
vector of the question is fetched if the statement has a place for it, the database runs the
statement, and a model phrases the result if that is wanted. The orders below are all complete runs,
one constructor for each way to go on; what an engine does is such a run, up to its end or up to the
first call that fails.

* `TableSource.Described`: the calls that describe the tables.
* `StatementReader.Filled`: the calls that fill in the vector of the question.
* `toldInSynthesis`: how a synthesis tells a failure.
* `TableEngine.Phrased`, `TableEngine.Answered`: the calls after the statement has run, and all of
  them.
* `NarrativeEngine.Phrased`, `NarrativeEngine.Answered`: the same over a prepared description.
* `TableEngine.ask_keeps`, `NarrativeEngine.ask_keeps`: both engines keep these orders.
-/

namespace AskSql

variable {σ : Type}

/-! ### The description of the tables -/

/-- The structure of a table, followed by a note if there is one. -/
def annotated (structureText : String) : Option String → String
  | none => structureText
  | some note => structureText ++ noteLead ++ note

lemma describeTable_eq (db : Database σ) (table : String) (note : Option String) :
    describeTable db table note
      = db.describe table >>= fun structureText => pure (annotated structureText note) := by
  cases note <;> rfl

/-- A table is described from its structure, which is asked for once. -/
inductive TableDescribed (table : String × Option String) : Order String
  | intro (structureText : String) :
      TableDescribed table [⟨.structureOf table.1, structureText, id⟩]
        (annotated structureText table.2)

lemma describeTable_keeps (db : Database σ) (table : String × Option String) :
    (describeTable db.watched table.1 table.2).Keeps (describeTable db table.1 table.2)
      (TableDescribed table) := by
  rw [describeTable_eq, describeTable_eq]
  refine ((db.describe_keeps table.1).bind fun structureText => Session.Keeps.pure _).mono ?_
  rintro steps block ⟨_, structureText, _, rfl, ⟨rfl, rfl⟩, rfl⟩
  exact .intro structureText

namespace ContextProvider

lemma describeAll_keeps (db : Database σ) (tables : List (String × Option String)) :
    (describeAll db.watched tables).Keeps (describeAll db tables)
      (Order.InTurn TableDescribed tables) :=
  Session.Keeps.each (describeTable_keeps db) tables

end ContextProvider

namespace TableSource

/-- The calls that describe the tables for a question: the tables are found out, if need be, and
then the structure of each is asked for, in turn. -/
inductive Described (mode : CallMode) (question : Question) : TableSource σ → Order String
  | selected {tables : List TableRef} {notes : Dictionary String} {steps : List Step}
      {blocks : List String}
      (h : Order.InTurn TableDescribed
        (tables.map fun table => (table.tableName, notes.get? table.tableName)) steps blocks) :
      Described mode question (.selected tables notes) steps (joinBlocks blocks)
  | all {notes : Dictionary String} (names : List String) {steps : List Step} {blocks : List String}
      (h : Order.InTurn TableDescribed (names.map fun name => (name, notes.get? name)) steps
        blocks) :
      Described mode question (.all notes) (⟨.usableTables, names, id⟩ :: steps) (joinBlocks blocks)
  | retrieved {retriever : SchemaRetriever σ} {heading : Option String} (tables : List TableSchema)
      {steps : List Step} {blocks : List String}
      (h : Order.InTurn TableDescribed
        (tables.map fun table => (table.name, ContextProvider.noteOf table)) steps blocks) :
      Described mode question (.retrieved retriever heading)
        (⟨.retrieval mode question, tables, id⟩ :: steps) (joinBlocks (heading.toList ++ blocks))
  | other {provider : ContextProvider σ} (text : String) :
      Described mode question (.other provider) [⟨.description mode question, text, id⟩] text

lemma context_keeps (source : TableSource σ) (db : Database σ) (mode : CallMode)
    (question : Question) :
    ((source.watched db).provider.context mode db.watched question).Keeps
      (source.provider.context mode db question) (source.Described mode question) := by
  cases source with
  | selected tables notes =>
      simp only [watched, provider, ContextProvider.selected_context]
      refine ((ContextProvider.describeAll_keeps db _).bind fun blocks =>
        Session.Keeps.pure (joinBlocks blocks)).mono ?_
      rintro steps text ⟨steps, blocks, _, hblocks, ⟨rfl, rfl⟩, rfl⟩
      rw [List.append_nil]
      exact .selected hblocks
  | all notes =>
      simp only [watched, provider, ContextProvider.all_context]
      refine (db.usableTables_keeps.bind fun names =>
        (ContextProvider.describeAll_keeps db _).bind fun blocks =>
          Session.Keeps.pure (joinBlocks blocks)).mono ?_
      rintro steps text ⟨_, names, _, rfl, ⟨steps, blocks, _, hblocks, ⟨rfl, rfl⟩, rfl⟩, rfl⟩
      rw [List.append_nil]
      exact .all names hblocks
  | retrieved retriever heading =>
      simp only [watched, provider, ContextProvider.retrieved_context]
      refine ((retriever.retrieve_keeps mode question).bind fun tables =>
        (ContextProvider.describeAll_keeps db _).bind fun blocks =>
          Session.Keeps.pure (joinBlocks (heading.toList ++ blocks))).mono ?_
      rintro steps text ⟨_, tables, _, rfl, ⟨steps, blocks, _, hblocks, ⟨rfl, rfl⟩, rfl⟩, rfl⟩
      rw [List.append_nil]
      exact .retrieved tables hblocks
  | other provider =>
      have hcall :
          ((TableSource.other provider).watched db).provider.context mode db.watched question
            = (provider.context mode db question).watched (.description mode question) := rfl
      rw [hcall]
      refine (Session.keeps_watched _ _).mono ?_
      rintro steps text rfl
      exact .other text

end TableSource

/-! ### The statement -/

namespace StatementReader

/-- The calls that fill in the vector of the question: one if vectors are filled in and there is a
place for it, else none. -/
inductive Filled (mode : CallMode) (question : Question) : StatementReader σ → String → Order String
  | plain {sql : String} : Filled mode question .plain sql [] sql
  | unplaced {model : EmbeddingModel σ} {sql : String}
      (h : Text.occursIn Statement.placeholder sql.toList = false) :
      Filled mode question (.vector model) sql [] sql
  | placed {model : EmbeddingModel σ} {sql : String}
      (h : Text.occursIn Statement.placeholder sql.toList = true) (v : Embedding) :
      Filled mode question (.vector model) sql [⟨.questionVector mode question.text, v, id⟩]
        (Statement.withVector sql v)

lemma read_keeps (reader : StatementReader σ) (mode : CallMode) (completion : String)
    (question : Question) :
    (reader.watched.read mode completion question).Keeps (reader.read mode completion question)
      (reader.Filled mode question (Statement.ofCompletion completion)) := by
  cases reader with
  | plain =>
      rw [watched, read_plain, read_plain]
      refine (Session.Keeps.pure _).mono ?_
      rintro steps sql ⟨rfl, rfl⟩
      exact .plain
  | vector model =>
      rw [watched, read_vector, read_vector]
      by_cases hplace : Statement.HasPlace (Statement.ofCompletion completion)
      · rw [Statement.fillVector_of_place hplace, Statement.fillVector_of_place hplace]
        refine ((model.ofQuestion_keeps mode question.text).bind fun v =>
          Session.Keeps.pure _).mono ?_
        rintro steps sql ⟨_, v, _, rfl, ⟨rfl, rfl⟩, rfl⟩
        exact .placed ((Text.occursIn_iff _ _).mpr hplace) v
      · rw [Statement.fillVector_of_no_place hplace, Statement.fillVector_of_no_place hplace]
        refine (Session.Keeps.pure _).mono ?_
        rintro steps sql ⟨rfl, rfl⟩
        exact .unplaced ((Text.occursIn_eq_false_iff _ _).mpr hplace)

end StatementReader

/-! ### The engine over the tables of a database -/

lemma Database.runRecorded_keeps (db : Database σ) (sql : String) :
    (db.watched.runRecorded sql).Keeps (db.runRecorded sql)
      (fun steps result => ∃ raw : Execution, steps = [⟨.execution sql, raw, id⟩]
        ∧ result = { raw with metadata := raw.metadata.insert sqlQueryKey (.text sql) }) := by
  refine ((db.run_keeps sql).bind fun raw => Session.Keeps.pure _).mono ?_
  rintro steps result ⟨_, raw, _, rfl, ⟨rfl, rfl⟩, rfl⟩
  exact ⟨raw, rfl, rfl⟩

/-- How a synthesis tells the failure of its call: one of the model as one of the synthesis, with
the same fault, and every other one as it is. -/
def toldInSynthesis : Failure → Failure
  | .llm fault => .synthesis fault
  | failure => failure

lemma inSynthesis_eq_toldInSynthesis : Failure.inSynthesis = toldInSynthesis := by
  funext failure
  cases failure <;> rfl

/-- The calls that make an answer of sources: one of the model in the compact mode, else none. -/
inductive LanguageModel.Synthesized (responseMode : ResponseMode) (prompt : Prompt)
    (mode : CallMode) (question : String) (sources : List SourceNode) : Order Answer
  | noText (hmode : responseMode = .noText) :
      Synthesized responseMode prompt mode question sources [] { sources := sources }
  | compact (hmode : responseMode = .compact) (words : String) :
      Synthesized responseMode prompt mode question sources
        [⟨.completion mode prompt
            [("query_str", question), ("context_str", joinBlocks (sources.map (·.text)))],
          words, toldInSynthesis⟩]
        { text := some (String.ofList (Text.trim words.toList)), sources := sources }

lemma LanguageModel.ofMode_keeps (llm : LanguageModel σ) (responseMode : ResponseMode)
    (prompt : Prompt) (mode : CallMode) (question : String) (sources : List SourceNode) :
    ((Synthesizer.ofMode responseMode llm.watched prompt).synthesize mode question sources).Keeps
      ((Synthesizer.ofMode responseMode llm prompt).synthesize mode question sources)
      (Synthesized responseMode prompt mode question sources) := by
  cases responseMode with
  | noText =>
      simp only [Synthesizer.ofMode, Synthesizer.noText_synthesize]
      refine (Session.Keeps.pure _).mono ?_
      rintro steps answer ⟨rfl, rfl⟩
      exact .noText rfl
  | compact =>
      simp only [Synthesizer.ofMode, Synthesizer.compact_synthesize]
      rw [inSynthesis_eq_toldInSynthesis]
      refine (((llm.predict_keeps mode prompt _).mapFailure toldInSynthesis).bind fun words =>
        Session.Keeps.pure _).mono ?_
      rintro steps answer ⟨_, words, _, ⟨_, rfl, rfl⟩, ⟨rfl, rfl⟩, rfl⟩
      exact .compact rfl words

namespace TableEngine

/-- The calls after a statement has run, and the answer they end in: none if the result is given
back as it is, else those of the synthesis. -/
inductive Phrased (engine : TableEngine σ) (mode : CallMode) (question : Question) (sql : String)
    (result : Execution) : Order Answer
  | raw (h : engine.synthesize = false) :
      Phrased engine mode question sql result [] (.ofText result.text result.metadata)
  | synthesized (h : engine.synthesize = true) {steps : List Step} {answer : Answer}
      (hanswer : LanguageModel.Synthesized engine.responseMode
        (engine.synthesisPrompt.bind [("sql_query", sql)]) mode question.text
        [{ text := result.text }] steps answer) :
      Phrased engine mode question sql result steps (answer.withExecution result.metadata)

/-- The calls behind an answer: the tables are described, a model writes a statement, the vector of
the question is filled in, the statement runs, once, and the result is phrased. -/
inductive Answered (engine : TableEngine σ) (source : TableSource σ) (mode : CallMode)
    (question : Question) : Order Answer
  | intro {context filling phrasing : List Step} {tables sql : String} {answer : Answer}
      (hcontext : source.Described mode question context tables) (completion : String)
      (hfilling : engine.reader.Filled mode question (Statement.ofCompletion completion) filling
        sql)
      (raw : Execution)
      (hphrasing : engine.Phrased mode question sql
        { raw with metadata := raw.metadata.insert sqlQueryKey (.text sql) } phrasing answer) :
      Answered engine source mode question
        (context
          ++ ⟨.completion mode engine.sqlPrompt [("query_str", question.text), ("schema", tables),
              ("dialect", engine.database.dialect)], completion, id⟩
            :: (filling ++ ⟨.execution sql, raw, id⟩ :: phrasing))
        answer

lemma respond_keeps (engine : TableEngine σ) (source : TableSource σ) (mode : CallMode)
    (question : Question) (sql : String) (result : Execution) :
    ((engine.watched source).respond mode question sql result).Keeps
      ((engine.over source).respond mode question sql result)
      (engine.Phrased mode question sql result) := by
  rw [respond_eq, respond_eq, synthesizer, synthesizer]
  show Session.Keeps (ite (engine.synthesize = true) _ _) (ite (engine.synthesize = true) _ _) _
  cases h : engine.synthesize with
  | false =>
      rw [if_neg (by simp), if_neg (by simp)]
      refine (Session.Keeps.pure _).mono ?_
      rintro steps answer ⟨rfl, rfl⟩
      exact .raw h
  | true =>
      rw [if_pos rfl, if_pos rfl]
      have hsources := engine.llm.ofMode_keeps engine.responseMode
        (engine.synthesisPrompt.bind [("sql_query", sql)]) mode question.text
        [{ text := result.text }]
      refine (hsources.bind fun answer => Session.Keeps.pure _).mono ?_
      rintro steps answer ⟨_, found, _, hfound, ⟨rfl, rfl⟩, rfl⟩
      rw [List.append_nil]
      exact .synthesized h hfound

/-- **The stages of a question.** The calls of the engine are those of a complete run, up to its end
or to the first call that fails. -/
theorem ask_keeps (engine : TableEngine σ) (source : TableSource σ) (mode : CallMode)
    (question : Question) :
    ((engine.watched source).ask mode question).Keeps ((engine.over source).ask mode question)
      (engine.Answered source mode question) := by
  have hcontext := source.context_keeps engine.database mode question
  simp only [ask_eq, tableContext_eq, generate_eq]
  refine (hcontext.bind fun tables =>
    (engine.llm.predict_keeps mode engine.sqlPrompt [("query_str", question.text),
      ("schema", tables), ("dialect", engine.database.dialect)]).bind fun completion =>
    (engine.reader.read_keeps mode completion question).bind fun sql =>
    (engine.database.runRecorded_keeps sql).bind fun result =>
    engine.respond_keeps source mode question sql result).mono ?_
  rintro steps answer ⟨context, tables, _, htables, ⟨_, completion, _, rfl, ⟨filling, sql, _, hsql,
    ⟨_, _, phrasing, ⟨raw, rfl, rfl⟩, hanswer, rfl⟩, rfl⟩, rfl⟩, rfl⟩
  exact .intro htables completion hsql raw hanswer

end TableEngine

/-! ### The engine over a prepared description -/

namespace NarrativeEngine

/-- The calls after a statement has run, and the words they end in: one of the model if it is to
phrase the answer, else none. -/
inductive Phrased (engine : NarrativeEngine σ) (mode : CallMode) (question : Question)
    (sql : String) (result : Execution) : Order String
  | raw (h : engine.synthesize = false) : Phrased engine mode question sql result [] result.text
  | phrased (h : engine.synthesize = true) (words : String) :
      Phrased engine mode question sql result
        [⟨.completion mode engine.synthesisPrompt
            [("query_str", question.text), ("sql_query", sql), ("sql_response_str", result.text)],
          words, id⟩]
        words

/-- The calls behind an answer: a model writes a statement, the statement runs, once, and the result
is phrased. -/
inductive Answered (engine : NarrativeEngine σ) (tables : String) (mode : CallMode)
    (question : Question) : Order Answer
  | intro (completion : String) (raw : Execution) {phrasing : List Step} {words : String}
      (hphrasing : engine.Phrased mode question (Statement.beforeResult completion)
        { raw with metadata :=
            raw.metadata.insert sqlQueryKey (.text (Statement.beforeResult completion)) }
        phrasing words) :
      Answered engine tables mode question
        (⟨.completion mode engine.sqlPrompt [("query_str", question.text), ("schema", tables),
              ("dialect", engine.database.dialect)], completion, id⟩
          :: ⟨.execution (Statement.beforeResult completion), raw, id⟩ :: phrasing)
        (.ofText words
          (raw.metadata.insert sqlQueryKey (.text (Statement.beforeResult completion))))

lemma phrase_keeps (engine : NarrativeEngine σ) (mode : CallMode) (question : Question)
    (sql : String) (result : Execution) :
    (engine.watched.phrase mode question sql result).Keeps (engine.phrase mode question sql result)
      (engine.Phrased mode question sql result) := by
  rw [phrase_eq, phrase_eq]
  show Session.Keeps (ite (engine.synthesize = true) _ _) (ite (engine.synthesize = true) _ _) _
  cases h : engine.synthesize with
  | false =>
      rw [if_neg (by simp), if_neg (by simp)]
      refine (Session.Keeps.pure _).mono ?_
      rintro steps words ⟨rfl, rfl⟩
      exact .raw h
  | true =>
      rw [if_pos rfl, if_pos rfl]
      refine (engine.llm.predict_keeps mode engine.synthesisPrompt _).mono ?_
      rintro steps words rfl
      exact .phrased h words

/-- The calls of the engine are those of a complete run, up to its end or to the first call that
fails, if there is a description of the tables. -/
lemma ask_keeps (engine : NarrativeEngine σ) (mode : CallMode) (question : Question)
    {tables : String} (h : engine.container.tableContext = .ok tables) :
    (engine.watched.ask mode question).Keeps (engine.ask mode question)
      (engine.Answered tables mode question) := by
  rw [ask_eq, ask_eq]
  show Session.Keeps (Session.ofExcept engine.container.tableContext >>= _)
    (Session.ofExcept engine.container.tableContext >>= _) _
  rw [h]
  refine ((engine.llm.predict_keeps mode engine.sqlPrompt [("query_str", question.text),
      ("schema", tables), ("dialect", engine.database.dialect)]).bind fun completion =>
    (engine.database.runRecorded_keeps (Statement.beforeResult completion)).bind fun result =>
    (engine.phrase_keeps mode question (Statement.beforeResult completion) result).bind fun words =>
      Session.Keeps.pure _).mono ?_
  rintro steps answer ⟨_, completion, _, rfl, ⟨_, _, _, ⟨raw, rfl, rfl⟩,
    ⟨phrasing, words, _, hwords, ⟨rfl, rfl⟩, rfl⟩, rfl⟩, rfl⟩
  rw [List.append_nil]
  exact .intro completion raw hwords

/-- Without a description of the tables the engine fails before any call. -/
lemma ask_of_tableContext_error (engine : NarrativeEngine σ) (mode : CallMode) (question : Question)
    {failure : Failure} (h : engine.container.tableContext = .error failure) (state : σ) :
    engine.ask mode question state = (.error failure, state) := by
  have hcontext : (Session.ofExcept engine.container.tableContext : Session σ String) state
      = (.error failure, state) := by
    rw [h]
    rfl
  rw [ask_eq, Session.bind_eq_andThen, Session.andThen_of_error hcontext]

end NarrativeEngine

end AskSql
