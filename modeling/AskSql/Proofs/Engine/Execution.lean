import AskSql.Proofs.Dictionary
import AskSql.Proofs.Paths
import AskSql.Proofs.Session

/-!
A question in two parts: up to the result of a statement, and from there to the answer.

The first part ends in the statement that ran and in what it yielded. Whether and how the result is
phrased matters to the second part alone.

* `TableEngine.executeFrom`, `TableEngine.execute`, `NarrativeEngine.executeFrom`: the first part,
  with and without the description of the tables.
* `TableEngine.execute_sqlQuery`: the result knows the statement behind it.
* `TableEngine.ask_eq_execute`, `NarrativeEngine.ask_eq_execute`: the first part, then the second.
* `TableEngine.askOver`, `TableEngine.ask_eq_askOver`: the stages after the tables are described.
* `Answer.phrased`, `Answer.unphrased`: answers that rest on a result, with words and without.
* `TableEngine.ask_of_failure`, `TableEngine.ask_of_result`, `NarrativeEngine.ask_of_failure`,
  `NarrativeEngine.ask_of_raw`: a run, from where its first part has ended.
* `TableEngine.respond_raw`, `TableEngine.respond_noText`, `TableEngine.respond_compact`: the second
  part in each of the ways to phrase a result.
-/

namespace AskSql

variable {σ : Type}

/-! ### Answers that rest on a result -/

namespace Answer

/-- The words of a model over a result. -/
def phrased (words raw : String) (metadata : Metadata) : Answer where
  text := some (String.ofList (Text.trim words.toList))
  sources := [{ text := raw }]
  metadata := metadata

/-- A result without words. -/
def unphrased (raw : String) (metadata : Metadata) : Answer where
  sources := [{ text := raw }]
  metadata := metadata

/-- An answer that knows nothing takes over what is known of the execution. -/
lemma withExecution_mk_empty (text : Option String) (sources : List SourceNode)
    (metadata : Metadata) :
    (Answer.mk text sources .empty).withExecution metadata = ⟨text, sources, metadata⟩ := by
  rw [withExecution, Dictionary.merge_empty_left]

end Answer

/-- A result that was recorded knows the statement behind it. -/
lemma Database.runRecorded_sqlQuery {db : Database σ} {sql : String} {state reached : σ}
    {result : Execution} (h : db.runRecorded sql state = (.ok result, reached)) :
    (Answer.ofText result.text result.metadata).sqlQuery = some sql := by
  obtain ⟨raw, _, -, hrecorded⟩ := Session.of_bind_ok h
  obtain rfl := Except.ok.inj (congrArg Prod.fst hrecorded)
  show ((raw.metadata.insert sqlQueryKey (.text sql)).get? sqlQueryKey).bind Json.text? = some sql
  rw [Dictionary.get?_insert, if_pos rfl]
  rfl

/-! ### The engine over the tables of a database -/

namespace TableEngine

/-- The statement for a question over some described tables, and what it yields. -/
def executeFrom (engine : TableEngine σ) (mode : CallMode) (question : Question) (tables : String) :
    Session σ (String × Execution) := do
  let completion ← engine.generate mode question tables
  let sql ← engine.reader.read mode completion question
  let result ← engine.database.runRecorded sql
  return (sql, result)

/-- The statement for a question, and what it yields. -/
def execute (engine : TableEngine σ) (mode : CallMode) (question : Question) :
    Session σ (String × Execution) := do
  let tables ← engine.tableContext mode question
  engine.executeFrom mode question tables

lemma ask_eq_execute (engine : TableEngine σ) (mode : CallMode) (question : Question) :
    engine.ask mode question
      = engine.execute mode question >>= fun run => engine.respond mode question run.1 run.2 := by
  simp only [ask_eq, execute, executeFrom, bind_assoc, pure_bind]

/-- The answer to a question over some described tables. -/
def askOver (engine : TableEngine σ) (mode : CallMode) (question : Question) (tables : String) :
    Session σ Answer := do
  let completion ← engine.generate mode question tables
  let sql ← engine.reader.read mode completion question
  let result ← engine.database.runRecorded sql
  engine.respond mode question sql result

lemma ask_eq_askOver (engine : TableEngine σ) (mode : CallMode) (question : Question) :
    engine.ask mode question = engine.tableContext mode question >>= engine.askOver mode question :=
  ask_eq mode engine question

variable {engine : TableEngine σ} {mode : CallMode} {question : Question} {state reached : σ}
  {sql : String} {result : Execution}

/-- Once the tables are described, the run goes on over them. -/
lemma ask_of_context {tables : String}
    (h : engine.tableContext mode question state = (.ok tables, reached)) :
    engine.ask mode question state = engine.askOver mode question tables reached := by
  rw [ask_eq_askOver, Session.bind_eq_andThen, Session.andThen_of_ok h]

/-- A failure to describe the tables ends the run. -/
lemma ask_of_context_failure {failure : Failure}
    (h : engine.tableContext mode question state = (.error failure, reached)) :
    engine.ask mode question state = (.error failure, reached) := by
  rw [ask_eq_askOver, Session.bind_eq_andThen, Session.andThen_of_error h]

/-- A failure of the first part ends the run. -/
lemma ask_of_failure {failure : Failure}
    (h : engine.execute mode question state = (.error failure, reached)) :
    engine.ask mode question state = (.error failure, reached) := by
  rw [ask_eq_execute, Session.bind_eq_andThen, Session.andThen_of_error h]

/-- After a result the run goes on with the second part. -/
lemma ask_of_result
    (h : engine.execute mode question state = (.ok (sql, result), reached)) :
    engine.ask mode question state = engine.respond mode question sql result reached := by
  rw [ask_eq_execute, Session.bind_eq_andThen, Session.andThen_of_ok h]

/-- The result of the first part knows the statement behind it. -/
lemma execute_sqlQuery
    (h : engine.execute mode question state = (.ok (sql, result), reached)) :
    (Answer.ofText result.text result.metadata).sqlQuery = some sql := by
  obtain ⟨tables, _, -, h⟩ := Session.of_bind_ok h
  obtain ⟨completion, _, -, h⟩ := Session.of_bind_ok h
  obtain ⟨sql', _, -, h⟩ := Session.of_bind_ok h
  obtain ⟨result', _, hrun, h⟩ := Session.of_bind_ok h
  obtain ⟨rfl, rfl⟩ := Prod.mk.inj (Except.ok.inj (congrArg Prod.fst h))
  exact Database.runRecorded_sqlQuery hrun

/-- Without synthesis the result is the answer. -/
lemma respond_raw (h : engine.synthesize = false) (mode : CallMode) (question : Question)
    (sql : String) (result : Execution) :
    engine.respond mode question sql result = pure (.ofText result.text result.metadata) := by
  rw [respond_eq, h]
  rfl

/-- Without words the result is given back as the source of the answer. -/
lemma respond_noText (h : engine.synthesize = true) (hmode : engine.responseMode = .noText)
    (mode : CallMode) (question : Question) (sql : String) (result : Execution) :
    engine.respond mode question sql result = pure (.unphrased result.text result.metadata) := by
  rw [respond_eq, if_pos h, synthesizer, hmode, Synthesizer.ofMode, Synthesizer.noText_synthesize,
    Synthesizer.withoutWords, pure_bind, Answer.withExecution_mk_empty]
  rfl

/-- Else a model is asked once, and its words are the answer. -/
lemma respond_compact (h : engine.synthesize = true) (hmode : engine.responseMode = .compact)
    (mode : CallMode) (question : Question) (sql : String) (result : Execution) :
    engine.respond mode question sql result
      = (engine.llm.predict mode (engine.synthesisPrompt.bind [("sql_query", sql)])
          [("query_str", question.text), ("context_str", result.text)]).mapFailure
            Failure.inSynthesis >>= fun words =>
        pure (.phrased words result.text result.metadata) := by
  rw [respond_eq, if_pos h, synthesizer, hmode, Synthesizer.ofMode, Synthesizer.compact_synthesize]
  simp only [Synthesizer.answerOf, bind_assoc, pure_bind, Answer.withExecution_mk_empty]
  rfl

end TableEngine

/-! ### The engine over a prepared description -/

namespace NarrativeEngine

/-- The statement for a question over some described tables, and what it yields. -/
def executeFrom (engine : NarrativeEngine σ) (mode : CallMode) (question : Question)
    (tables : String) : Session σ (String × Execution) := do
  let completion ← engine.llm.predict mode engine.sqlPrompt
    [("query_str", question.text), ("schema", tables), ("dialect", engine.database.dialect)]
  let result ← engine.database.runRecorded (Statement.beforeResult completion)
  return (Statement.beforeResult completion, result)

lemma ask_eq_execute {engine : NarrativeEngine σ} {tables : String}
    (h : engine.container.tableContext = .ok tables) (mode : CallMode) (question : Question) :
    engine.ask mode question
      = engine.executeFrom mode question tables >>= fun run =>
          engine.phrase mode question run.1 run.2 >>= fun words =>
            pure (.ofText words run.2.metadata) := by
  rw [ask_eq, h]
  simp only [executeFrom, bind_assoc, pure_bind]
  rfl

variable {engine : NarrativeEngine σ} {mode : CallMode} {question : Question} {tables sql : String}
  {state reached : σ} {result : Execution}

/-- A failure of the first part ends the run. -/
lemma ask_of_failure (h : engine.container.tableContext = .ok tables) {failure : Failure}
    (hexecute : engine.executeFrom mode question tables state = (.error failure, reached)) :
    engine.ask mode question state = (.error failure, reached) := by
  rw [ask_eq_execute h, Session.bind_eq_andThen, Session.andThen_of_error hexecute]

/-- Without synthesis the result is the answer. -/
lemma ask_of_raw (h : engine.container.tableContext = .ok tables) (hraw : engine.synthesize = false)
    (hexecute : engine.executeFrom mode question tables state = (.ok (sql, result), reached)) :
    engine.ask mode question state = (.ok (.ofText result.text result.metadata), reached) := by
  have hphrase : engine.phrase mode question sql result = pure result.text := by
    rw [phrase_eq, hraw]
    rfl
  rw [ask_eq_execute h, Session.bind_eq_andThen, Session.andThen_of_ok hexecute, hphrase, pure_bind]
  rfl

end NarrativeEngine

end AskSql
