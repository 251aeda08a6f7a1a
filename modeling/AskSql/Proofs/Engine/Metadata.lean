import AskSql.Proofs.Dictionary
import AskSql.Proofs.Engine.Discipline

/-!
What an answer tells about the statement behind it.

Only one of the stages runs a statement. What running it brought goes into the metadata of the
answer, together with the statement, and nothing that comes later takes it away.

* `Answer.Records`: an answer whose metadata is that of a result with the statement recorded in it.
* `ask_records`: the answers of both engines record the one statement that ran, and merging the
  metadata of a result into any answer loses nothing of it.
-/

namespace AskSql

variable {σ : Type}

/-! ### Metadata -/

/-- An answer that records a statement and what running it brought: the metadata is that of the
result, except that the statement stands under its own key. -/
structure Answer.Records (answer : Answer) (sql : String) (result : Execution) : Prop where
  metadata : answer.metadata = result.metadata.insert sqlQueryKey (.text sql)
  sqlQuery : answer.sqlQuery = some sql
  others : ∀ key, key ≠ sqlQueryKey → answer.metadata.get? key = result.metadata.get? key

lemma Answer.records_of_metadata {answer : Answer} {sql : String} {result : Execution}
    (h : answer.metadata = result.metadata.insert sqlQueryKey (.text sql)) :
    answer.Records sql result where
  metadata := h
  sqlQuery := by
    rw [Answer.sqlQuery, h, Dictionary.get?_insert, if_pos rfl]
    rfl
  others key hkey := by rw [h, Dictionary.get?_insert, if_neg hkey]

/-- A synthesis knows nothing about its answer. -/
lemma LanguageModel.Synthesized.metadata_eq {responseMode : ResponseMode} {prompt : Prompt}
    {mode : CallMode} {question : String} {sources : List SourceNode} {steps : List Step}
    {answer : Answer} (h : Synthesized responseMode prompt mode question sources steps answer) :
    answer.metadata = .empty := by
  cases h with
  | noText hmode => rfl
  | compact hmode words => rfl

/-- An answer has the metadata of the result that it is made of. -/
lemma TableEngine.Phrased.metadata_eq {engine : TableEngine σ} {mode : CallMode}
    {question : Question} {sql : String} {result : Execution} {steps : List Step} {answer : Answer}
    (h : engine.Phrased mode question sql result steps answer) :
    answer.metadata = result.metadata := by
  cases h with
  | raw h => rfl
  | @synthesized h steps found hfound =>
      have hmerge : (found.withExecution result.metadata).metadata
          = found.metadata.merge result.metadata := rfl
      rw [hmerge, hfound.metadata_eq, Dictionary.merge_empty_left]

/-- What execution binds wins over what an answer has, and the rest of the answer stays. -/
lemma Answer.withExecution_get? (answer : Answer) (execution : Metadata) (key : String) :
    (answer.withExecution execution).metadata.get? key
      = (execution.get? key).or (answer.metadata.get? key) :=
  Dictionary.get?_merge answer.metadata execution key

/-- Whatever an answer says about its statement, the one that is recorded with the result wins. -/
lemma Answer.sqlQuery_withExecution (answer : Answer) (execution : Metadata) (sql : String) :
    (answer.withExecution (execution.insert sqlQueryKey (.text sql))).sqlQuery = some sql := by
  rw [sqlQuery, withExecution_get?, Dictionary.get?_insert, if_pos rfl]
  rfl

/-! ### Answers record their statement -/

/-- A complete run executes one statement, which its answer records. -/
lemma TableEngine.Answered.records {engine : TableEngine σ} {source : TableSource σ}
    {mode : CallMode} {question : Question} {steps : List Step} {answer : Answer}
    (h : engine.Answered source mode question steps answer) :
    ∃ sql result, executions (steps.map Step.call) = [⟨.execution sql, .ok result⟩]
      ∧ answer.Records sql result := by
  cases h with
  | @intro context filling phrasing tables sql answer hcontext completion hfilling raw hphrasing =>
      refine ⟨sql, raw, ?_, Answer.records_of_metadata hphrasing.metadata_eq⟩
      rw [← List.cons_append, ← List.append_assoc]
      have hbefore : Quiet (context
          ++ ⟨.completion mode engine.sqlPrompt [("query_str", question.text), ("schema", tables),
              ("dialect", engine.database.dialect)], completion, id⟩ :: filling) :=
        Quiet.append_iff.mpr
          ⟨hcontext.isPlain.quiet, Quiet.cons_iff.mpr ⟨rfl, hfilling.isPlain.quiet⟩⟩
      exact hbefore.executions_around hphrasing.quiet sql raw

/-- A complete run executes one statement, which its answer records. -/
lemma NarrativeEngine.Answered.records {engine : NarrativeEngine σ} {tables : String}
    {mode : CallMode} {question : Question} {steps : List Step} {answer : Answer}
    (h : engine.Answered tables mode question steps answer) :
    ∃ sql result, executions (steps.map Step.call) = [⟨.execution sql, .ok result⟩]
      ∧ answer.Records sql result := by
  cases h with
  | @intro completion raw phrasing words hphrasing =>
      refine ⟨_, raw, ?_, Answer.records_of_metadata rfl⟩
      have hbefore : Quiet [⟨.completion mode engine.sqlPrompt [("query_str", question.text),
          ("schema", tables), ("dialect", engine.database.dialect)], completion, id⟩] :=
        Quiet.cons_iff.mpr ⟨rfl, .nil⟩
      exact hbefore.executions_around hphrasing.isPlain.quiet _ raw

/-- **Answers record their statement.** If a question is answered, exactly one statement has run,
and the metadata of the answer is what running it brought, with that statement under its own key
whatever the database said about it. In the engine over tables, whoever makes the words of the
answer, what execution binds wins, and everything else in the answer stays. -/
theorem ask_records {σ : Type} (mode : CallMode) (question : Question) (state : σ) :
    (∀ (engine : TableEngine σ) (source : TableSource σ) (answer : Answer),
      ((engine.over source).ask mode question state).1 = .ok answer →
      ∃ sql result,
        executions ((engine.watched source).ask mode question (state, [])).2.2
            = [⟨.execution sql, .ok result⟩]
          ∧ answer.Records sql result)
    ∧ (∀ (engine : NarrativeEngine σ) (answer : Answer),
      (engine.ask mode question state).1 = .ok answer →
      ∃ sql result,
        executions (engine.watched.ask mode question (state, [])).2.2
            = [⟨.execution sql, .ok result⟩]
          ∧ answer.Records sql result)
    ∧ ∀ (answer : Answer) (execution : Metadata),
      (answer.withExecution execution).text = answer.text
      ∧ (answer.withExecution execution).sources = answer.sources
      ∧ (∀ key, (answer.withExecution execution).metadata.get? key
          = (execution.get? key).or (answer.metadata.get? key))
      ∧ ∀ sql, (answer.withExecution (execution.insert sqlQueryKey (.text sql))).sqlQuery
          = some sql := by
  refine ⟨fun engine source answer h => ?_, fun engine answer h => ?_, fun answer execution =>
    ⟨rfl, rfl, answer.withExecution_get? execution, answer.sqlQuery_withExecution execution⟩⟩
  · have hrun := engine.ask_keepsDiscipline source mode question state
    obtain ⟨steps, hsteps, hcalls⟩ := hrun.of_ok answer (hrun.same.1.trans h)
    rw [hcalls]
    exact hsteps.records
  · cases htables : engine.container.tableContext with
    | error failure =>
        rw [engine.ask_of_tableContext_error mode question htables] at h
        cases h
    | ok tables =>
        have hrun := engine.ask_keepsDiscipline mode question htables state
        obtain ⟨steps, hsteps, hcalls⟩ := hrun.of_ok answer (hrun.same.1.trans h)
        rw [hcalls]
        exact hsteps.records

/-! ### A database with a record of its own -/

/-- A database that claims another statement than the one that ran. -/
def boastfulDatabase : Database Unit where
  dialect := "sqlite"
  usableTables := .done ["city"]
  describe _ := .done "Table 'city' has columns: name (TEXT)."
  run _ := .done ⟨"[('Oslo',)]",
    .ofList [(sqlQueryKey, .text "DROP TABLE city"), ("shape", .text "one row")]⟩

/-- A model that always writes the same statement. -/
def steadyModel : LanguageModel Unit where
  predict _ _ _ := .done "SQLQuery: SELECT name FROM city"

/-- A question for it. -/
def whichCity : Question := { text := "Which city?" }

/-- An engine over all tables that lets the model phrase the answer. -/
def boastfulTableEngine : TableEngine Unit where
  database := boastfulDatabase
  provider := .all .empty
  reader := .plain
  sqlPrompt := .textToSql
  synthesisPrompt := .sqlSynthesis
  synthesize := true
  responseMode := .compact
  llm := steadyModel

/-- An engine over a prepared description. -/
def boastfulNarrativeEngine : NarrativeEngine Unit where
  database := boastfulDatabase
  container := { text := some "Table 'city' has columns: name (TEXT)." }
  llm := steadyModel

/-- Both engines answer over such a database, and record what they ran. -/
theorem boastful_ask_records :
    (∃ answer, (boastfulTableEngine.ask .blocking whichCity ()).1 = .ok answer
      ∧ ∃ sql result,
        executions
            ((boastfulTableEngine.watched (.all .empty)).ask .blocking whichCity ((), [])).2.2
            = [⟨.execution sql, .ok result⟩]
          ∧ answer.Records sql result)
    ∧ ∃ answer, (boastfulNarrativeEngine.ask .async whichCity ()).1 = .ok answer
      ∧ ∃ sql result,
        executions (boastfulNarrativeEngine.watched.ask .async whichCity ((), [])).2.2
            = [⟨.execution sql, .ok result⟩]
          ∧ answer.Records sql result :=
  ⟨⟨_, rfl, (ask_records .blocking whichCity ()).1 boastfulTableEngine (.all .empty) _ rfl⟩,
    ⟨_, rfl, (ask_records .async whichCity ()).2.1 boastfulNarrativeEngine _ rfl⟩⟩

end AskSql
