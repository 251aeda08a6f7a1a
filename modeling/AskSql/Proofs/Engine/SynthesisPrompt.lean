import AskSql.Engine.Options
import AskSql.Proofs.Engine.Execution
import AskSql.Proofs.Prompt.Bindings

/-!
The prompt that phrases answers, from the options of an engine to the model.

An engine looks at this prompt once, when it is put together. The look is at the variables alone:
whatever else the template holds and whatever was bound in advance, a question, a statement and a
result are enough to render it, and they are what its text shows.

* `Prompt.PhrasesAnswers`: a prompt with these three variables and no others.
* `Prompt.PhrasesAnswers.render`: the text of such a prompt in the synthesis, and of its template.
* `EngineKind`, `EngineOptions.finish`, `EngineOptions.assembled`: the ways to finish putting an
  engine together, and what comes out of it if the prompt is accepted.
* `TableEngine.respond_ofCompletion`: what reaches a model that completes texts.
* `EngineOptions.finish_phrasesAnswers`: such prompts are accepted, others are refused before anyone
  is asked, and an accepted one never fails.
-/

namespace AskSql

variable {σ : Type}

/-! ### The prompt -/

namespace Prompt

/-- The prompt has the question, the statement and the result as its variables, and no others. -/
def PhrasesAnswers (p : Prompt) : Prop :=
  ∀ name, name ∈ p.variableNames ↔ name = "query_str" ∨ name = "sql_query" ∨ name = "context_str"

lemma variableNames_eq_synthesisVariables_iff {p : Prompt} :
    p.variableNames = synthesisVariables ↔ p.PhrasesAnswers := by
  have hascending : synthesisVariables.Pairwise (· < ·) := by decide
  have hmem : ∀ name, name ∈ synthesisVariables
      ↔ name = "query_str" ∨ name = "sql_query" ∨ name = "context_str" := by
    intro name
    simp only [synthesisVariables, List.mem_cons, List.not_mem_nil, or_false]
    exact or_comm.trans or_assoc
  rw [variableNames_eq_iff hascending, PhrasesAnswers]
  exact forall_congr' fun name => by rw [hmem]

lemma PhrasesAnswers.checkSynthesis {p : Prompt} (h : p.PhrasesAnswers) :
    p.checkSynthesis = .ok () :=
  if_pos (variableNames_eq_synthesisVariables_iff.mpr h)

lemma checkSynthesis_of_not_phrasesAnswers {p : Prompt} (h : ¬ p.PhrasesAnswers) :
    p.checkSynthesis = .error (.configuration (.synthesisVariables p.variableNames)) :=
  if_neg (mt variableNames_eq_synthesisVariables_iff.mp h)

/-- What the variables of such a prompt stand for. -/
def synthesisValue (question sql result name : String) : String :=
  if name = "query_str" then question else if name = "sql_query" then sql else result

/-- In the synthesis the statement is bound in advance, and the other two by the call. -/
lemma lookup_staged (question sql result : String) {name : String}
    (h : name = "query_str" ∨ name = "sql_query" ∨ name = "context_str") :
    [("sql_query", sql), ("query_str", question), ("context_str", result)].reverse.lookup name
      = some (synthesisValue question sql result name) := by
  rcases h with rfl | rfl | rfl
  · rfl
  · rfl
  · rfl

/-- The synthesis renders such a prompt, and its text is the one that its template has on its own:
nothing that was bound in advance shows. -/
lemma PhrasesAnswers.render {p : Prompt} (h : p.PhrasesAnswers) (question sql result : String) :
    ∃ text,
      (p.bind [("sql_query", sql)]).render [("query_str", question), ("context_str", result)]
          = .ok text
        ∧ p.bare.render [("query_str", question), ("sql_query", sql), ("context_str", result)]
          = .ok text := by
  have hstaged : Covers [("sql_query", sql), ("query_str", question), ("context_str", result)] p
      (synthesisValue question sql result) :=
    fun name hname => lookup_staged question sql result ((h name).mp hname)
  have hplain : Covers [("query_str", question), ("sql_query", sql), ("context_str", result)] p.bare
      (synthesisValue question sql result) := by
    intro name hname
    rcases (h name).mp hname with rfl | rfl | rfl
    · rfl
    · rfl
    · rfl
  refine ⟨_, ?_, render_of_covers hplain⟩
  rw [render_bind]
  exact render_of_covers hstaged

/-- The prompt that is used unless another one is given passes the check. -/
lemma sqlSynthesisV2_phrasesAnswers : sqlSynthesisV2.PhrasesAnswers := by
  intro name
  have hnames : ∀ segment ∈ synthesisSegments "context_str", segment.WellNamed := by decide
  have htemplate : sqlSynthesisV2.template = Template.write (synthesisSegments "context_str") := rfl
  rw [mem_variableNames_of_write htemplate hnames]
  simp [synthesisSegments]

end Prompt

/-! ### Putting an engine together -/

/-- The ways to finish putting an engine together. -/
inductive EngineKind (σ : Type) where
  /-- Over the tables of a list, or over every usable table. -/
  | nlSql (tables : Option (List TableRef))
  /-- The same with the vector of the question filled in. -/
  | pgvector (tables : Option (List TableRef))
  /-- Over tables that are picked for each question. -/
  | overRetriever (retriever : SchemaRetriever σ) (heading : Option String)
  /-- With any provider and any way of reading statements. -/
  | custom (provider : ContextProvider σ) (reader : StatementReader σ)

namespace EngineOptions

/-- The engine of a kind. -/
def finish (options : EngineOptions) (db : Database σ) (models : Models σ) :
    EngineKind σ → Except Failure (TableEngine σ)
  | .nlSql tables => options.nlSql db models tables
  | .pgvector tables => options.pgvector db models tables
  | .overRetriever retriever heading => options.overRetriever db models retriever heading
  | .custom provider reader => options.build db models.llm provider reader

/-- The prompt that is to phrase the answers. -/
def answerPrompt (options : EngineOptions) : Prompt :=
  options.synthesisPrompt.getD .sqlSynthesisV2

/-- The engine with any provider and any way of reading statements, once its prompt is accepted. -/
def assembled (options : EngineOptions) (db : Database σ) (llm : LanguageModel σ)
    (provider : ContextProvider σ) (reader : StatementReader σ) : TableEngine σ where
  database := db
  provider := provider
  reader := reader
  sqlPrompt := options.sqlPrompt.getD .textToSql
  synthesisPrompt := options.answerPrompt
  synthesize := options.synthesize
  responseMode := options.responseMode
  llm := llm

/-- Whether an engine is put together is a matter of that prompt alone. -/
lemma build_eq (options : EngineOptions) (db : Database σ) (llm : LanguageModel σ)
    (provider : ContextProvider σ) (reader : StatementReader σ) :
    options.build db llm provider reader
      = options.answerPrompt.checkSynthesis >>= fun _ =>
          .ok (options.assembled db llm provider reader) := rfl

/-- With a prompt that passes the check it is put together. -/
lemma build_of_phrasesAnswers {options : EngineOptions} (h : options.answerPrompt.PhrasesAnswers)
    (db : Database σ) (llm : LanguageModel σ) (provider : ContextProvider σ)
    (reader : StatementReader σ) :
    options.build db llm provider reader = .ok (options.assembled db llm provider reader) := by
  rw [build_eq, h.checkSynthesis]
  rfl

/-- An engine that phrases its answers as the options say. -/
structure PhrasedBy (engine : TableEngine σ) (options : EngineOptions) (llm : LanguageModel σ) :
    Prop where
  prompt : engine.synthesisPrompt = options.answerPrompt
  synthesize : engine.synthesize = options.synthesize
  responseMode : engine.responseMode = options.responseMode
  llm : engine.llm = llm

/-- Whatever its kind, an engine is put together if its prompt passes the check, and then it phrases
its answers as the options say. -/
lemma finish_eq (options : EngineOptions) (db : Database σ) (models : Models σ)
    (kind : EngineKind σ) :
    ∃ engine, PhrasedBy engine options models.llm
      ∧ options.finish db models kind
        = options.answerPrompt.checkSynthesis >>= fun _ => .ok engine := by
  cases kind with
  | nlSql tables => exact ⟨_, ⟨rfl, rfl, rfl, rfl⟩, options.build_eq ..⟩
  | pgvector tables =>
      -- the prompt for statements is another one, and nothing else is
      let options' : EngineOptions :=
        { options with sqlPrompt := some (options.sqlPrompt.getD .textToSqlVector) }
      exact ⟨_, ⟨rfl, rfl, rfl, rfl⟩, options'.build_eq ..⟩
  | overRetriever retriever heading => exact ⟨_, ⟨rfl, rfl, rfl, rfl⟩, options.build_eq ..⟩
  | custom provider reader => exact ⟨_, ⟨rfl, rfl, rfl, rfl⟩, options.build_eq ..⟩

end EngineOptions

/-- What reaches a model that completes texts: the text of the prompt, if it can be rendered. -/
lemma TableEngine.respond_ofCompletion {engine : TableEngine σ}
    {complete : CallMode → String → Session σ String} (hllm : engine.llm = .ofCompletion complete)
    (hsynthesize : engine.synthesize = true) (hmode : engine.responseMode = .compact)
    {mode : CallMode} {question : Question} {sql text : String} {result : Execution}
    (htext : (engine.synthesisPrompt.bind [("sql_query", sql)]).render
      [("query_str", question.text), ("context_str", result.text)] = .ok text) :
    engine.respond mode question sql result
      = (complete mode text).mapFailure Failure.inSynthesis >>= fun words =>
        pure (.phrased words result.text result.metadata) := by
  have hpredict : engine.llm.predict mode (engine.synthesisPrompt.bind [("sql_query", sql)])
      [("query_str", question.text), ("context_str", result.text)] = complete mode text := by
    rw [hllm, LanguageModel.ofCompletion_predict, htext]
    exact pure_bind text (complete mode)
  rw [respond_compact hsynthesize hmode, hpredict]

/-- **The prompt of an engine is checked once and for all.** Whatever kind of engine is put together
with whatever prompt, the prompt is accepted just if its variables are the question, the statement
and the result; otherwise it is refused as a fault of the configuration, and no collaborator has
been asked. Once it is accepted, the synthesis renders it for every question, statement and result,
as its template with these three values, whatever was bound in advance. So a model that completes
texts is given that text, and nothing but its own failure can keep an answer from being phrased. -/
theorem EngineOptions.finish_phrasesAnswers (options : EngineOptions) (db : Database σ)
    (models : Models σ) (kind : EngineKind σ) :
    ((∃ engine, options.finish db models kind = .ok engine) ↔ options.answerPrompt.PhrasesAnswers)
    ∧ (¬ options.answerPrompt.PhrasesAnswers → ∀ state : σ,
        Session.ofExcept (options.finish db models kind) state
          = (.error (.configuration (.synthesisVariables options.answerPrompt.variableNames)),
              state))
    ∧ ∀ engine, options.finish db models kind = .ok engine →
      ∀ (question : Question) (sql : String) (result : Execution), ∃ text,
        (engine.synthesisPrompt.bind [("sql_query", sql)]).render
            [("query_str", question.text), ("context_str", result.text)] = .ok text
        ∧ options.answerPrompt.bare.render [("query_str", question.text), ("sql_query", sql),
            ("context_str", result.text)] = .ok text
        ∧ ∀ complete, models.llm = .ofCompletion complete → options.synthesize = true →
          options.responseMode = .compact → ∀ mode,
          engine.respond mode question sql result
            = (complete mode text).mapFailure Failure.inSynthesis >>= fun words =>
              pure (.phrased words result.text result.metadata) := by
  obtain ⟨built, hphrased, hfinish⟩ := options.finish_eq db models kind
  by_cases hphrases : options.answerPrompt.PhrasesAnswers
  · have hbuilt : options.finish db models kind = .ok built := by
      rw [hfinish, hphrases.checkSynthesis]
      rfl
    refine ⟨⟨fun _ => hphrases, fun _ => ⟨built, hbuilt⟩⟩, fun hnot => absurd hphrases hnot,
      fun engine hengine question sql result => ?_⟩
    obtain rfl : built = engine := Except.ok.inj (hbuilt.symm.trans hengine)
    obtain ⟨text, hstaged, hbare⟩ := hphrases.render question.text sql result.text
    rw [← hphrased.prompt] at hstaged
    exact ⟨text, hstaged, hbare, fun complete hcomplete hsynthesize hmode _ =>
      TableEngine.respond_ofCompletion (hphrased.llm.trans hcomplete)
        (hphrased.synthesize.trans hsynthesize) (hphrased.responseMode.trans hmode) hstaged⟩
  · have hrefused : options.finish db models kind
        = .error (.configuration (.synthesisVariables options.answerPrompt.variableNames)) := by
      rw [hfinish, Prompt.checkSynthesis_of_not_phrasesAnswers hphrases]
      rfl
    refine ⟨⟨fun ⟨engine, hengine⟩ => ?_, fun h => absurd h hphrases⟩, fun _ state => ?_,
      fun engine hengine => ?_⟩
    · rw [hrefused] at hengine
      cases hengine
    · rw [hrefused]
      rfl
    · rw [hrefused] at hengine
      cases hengine

/-! ### A prompt with values of its own -/

namespace Prompt

/-- The three variables, the question among braces. -/
def bracedAnswerSegments : List Template.Segment :=
  [.text "\x7b", .slot "query_str", .text "\x7d ", .slot "sql_query", .text ": ",
    .slot "context_str"]

/-- A prompt that comes with a question and a statement of its own. -/
def bracedAnswerPrompt : Prompt where
  template := Template.write bracedAnswerSegments
  bound := .ofList [("query_str", "\x7bsql_query\x7d"), ("sql_query", "DROP TABLE city")]

/-- A prompt that never shows the result. -/
def blindAnswerPrompt : Prompt where
  template := Template.write [.slot "query_str", .slot "sql_query"]
  bound := .ofList [("context_str", "[]")]

lemma bracedAnswerPrompt_phrasesAnswers : bracedAnswerPrompt.PhrasesAnswers := by
  intro name
  have hnames : ∀ segment ∈ bracedAnswerSegments, segment.WellNamed := by decide
  rw [mem_variableNames_of_write rfl hnames]
  simp [bracedAnswerSegments]

lemma not_blindAnswerPrompt_phrasesAnswers : ¬ blindAnswerPrompt.PhrasesAnswers := by
  intro h
  have hresult := (h "context_str").mpr (by simp)
  rw [mem_variableNames_of_write rfl (by decide)] at hresult
  simp at hresult

/-- The template of the first one, with values that hold braces. -/
lemma bracedAnswerPrompt_render :
    bracedAnswerPrompt.bare.render [("query_str", "Which?"), ("sql_query", "SELECT '\x7b\x7d'"),
      ("context_str", "[('\x7bquery_str\x7d',)]")]
      = .ok "\x7bWhich?\x7d SELECT '\x7b\x7d': [('\x7bquery_str\x7d',)]" := by
  have hnames : ∀ segment ∈ bracedAnswerSegments, segment.WellNamed := by decide
  have hvalues : ∀ name, .slot name ∈ bracedAnswerSegments →
      [("query_str", "Which?"), ("sql_query", "SELECT '\x7b\x7d'"),
        ("context_str", "[('\x7bquery_str\x7d',)]")].reverse.lookup name
        = some (synthesisValue "Which?" "SELECT '\x7b\x7d'" "[('\x7bquery_str\x7d',)]" name) := by
    intro name hname
    obtain rfl | rfl | rfl : name = "query_str" ∨ name = "sql_query" ∨ name = "context_str" := by
      simpa [bracedAnswerSegments] using hname
    · rfl
    · rfl
    · rfl
  have htemplate : bracedAnswerPrompt.bare.template = Template.write bracedAnswerSegments := rfl
  exact render_of_write htemplate hnames hvalues

end Prompt

/-- A database that answers nothing. -/
def muteDatabase : Database Unit where
  dialect := "sqlite"
  usableTables := .fail (.database .notADatabase)
  describe _ := .fail (.database .notADatabase)
  run _ := .fail (.database .notADatabase)

/-- A model that completes a text with the text itself. -/
def echoModels : Models σ where
  llm := .ofCompletion fun _ text => .done text
  embedding := .ofQuestions fun _ => .done []

/-- The first prompt is accepted and shows what the engine gives it, the second one is refused. -/
theorem bracedAnswerPrompt_finish :
    (∃ engine, ({ synthesisPrompt := some .bracedAnswerPrompt } : EngineOptions).finish muteDatabase
        echoModels (.pgvector none) = .ok engine
      ∧ engine.respond .async { text := "Which?" } "SELECT '\x7b\x7d'"
          ⟨"[('\x7bquery_str\x7d',)]", .empty⟩ ()
        = (.ok { text := some "\x7bWhich?\x7d SELECT '\x7b\x7d': [('\x7bquery_str\x7d',)]",
                 sources := [{ text := "[('\x7bquery_str\x7d',)]" }] }, ()))
    ∧ ¬ Prompt.blindAnswerPrompt.PhrasesAnswers
    ∧ Session.ofExcept (({ synthesisPrompt := some .blindAnswerPrompt } : EngineOptions).finish
        muteDatabase echoModels (.nlSql none)) ()
      = (.error (.configuration (.synthesisVariables Prompt.blindAnswerPrompt.variableNames)),
          ()) := by
  obtain ⟨haccepted, -, hrendered⟩ := EngineOptions.finish_phrasesAnswers
    { synthesisPrompt := some .bracedAnswerPrompt } muteDatabase echoModels (.pgvector none)
  obtain ⟨-, hrefused, -⟩ := EngineOptions.finish_phrasesAnswers
    { synthesisPrompt := some .blindAnswerPrompt } muteDatabase echoModels (.nlSql none)
  obtain ⟨engine, hengine⟩ := haccepted.mpr Prompt.bracedAnswerPrompt_phrasesAnswers
  refine ⟨⟨engine, hengine, ?_⟩, Prompt.not_blindAnswerPrompt_phrasesAnswers,
    hrefused Prompt.not_blindAnswerPrompt_phrasesAnswers ()⟩
  obtain ⟨text, -, hbare, hrespond⟩ := hrendered engine hengine { text := "Which?" }
    "SELECT '\x7b\x7d'" ⟨"[('\x7bquery_str\x7d',)]", .empty⟩
  obtain rfl := Except.ok.inj (Prompt.bracedAnswerPrompt_render.symm.trans hbare)
  rw [hrespond (fun _ text => .done text) rfl rfl rfl .async]
  rfl

end AskSql
