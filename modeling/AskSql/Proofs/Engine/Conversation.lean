import AskSql.Proofs.Engine.Exchanges
import AskSql.Proofs.Engine.SynthesisPrompt
import AskSql.Proofs.Engine.Wording
import AskSql.Proofs.Statement.Labels
import AskSql.Proofs.Text.Trimming

/-!
The engine over a prepared description beside the engine over tables.

The two engines read completions in different ways, phrase results with different prompts and tell
failures in different words. Seen from outside, by the texts that reach the model and by the
statements that reach the database, they cannot be told apart as long as the completion is nothing
but a statement. What is left is how the answer is put: the engine over tables trims it, adds the
result as its source, and tells a failure of the model in the synthesis as one of the synthesis.

* `Statement.Unadorned`: completions that both engines read alike.
* `LanguageModel.ReadsText`: models to which a prompt is its text.
* `NarrativeEngine.Counterpart`: engines of both kinds that differ in their kind alone.
* `SameConversation`: a run of the one engine beside a run of the other.
* `EngineOptions.build_sameConversation`: with the usual prompts, the two engines hold the same
  conversation.
-/

namespace AskSql

variable {σ : Type}

/-! ### Completions without decoration -/

namespace Statement

/-- Up to the guess at the result the completion is a statement: there is no label before it and no
code fence around it. -/
structure Unadorned (completion : String) : Prop where
  unlabelled : ¬ queryLabel <:+: completion.toList
  unfenced : Text.Bare isFence (beforeResult completion).toList

/-- From such a completion every engine takes the same statement. -/
lemma Unadorned.ofCompletion_eq {completion : String} (h : Unadorned completion) :
    ofCompletion completion = beforeResult completion := by
  have hunfenced : Text.Bare isFence (Text.trim (crop completion.toList)) := by
    have hbare := h.unfenced
    rwa [beforeResult, String.toList_ofList] at hbare
  have htrimmed : Text.Bare Text.isBlank (Text.trim (crop completion.toList)) :=
    Text.bare_trimEnds _ _
  rw [ofCompletion, extract, afterFirst_of_not_query h.unlabelled, undecorate,
    Text.trimEnds_of_bare hunfenced]
  exact congrArg String.ofList (Text.trimEnds_of_bare htrimmed)

end Statement

/-! ### Models that read texts -/

/-- To the model a prompt is its text: it completes two prompts that are rendered alike alike. -/
def LanguageModel.ReadsText (llm : LanguageModel σ) : Prop :=
  ∀ (mode : CallMode) (prompt other : Prompt) (bindings values : Bindings),
    prompt.render bindings = other.render values →
      llm.predict mode prompt bindings = llm.predict mode other values

lemma LanguageModel.ofCompletion_readsText (complete : CallMode → String → Session σ String) :
    (LanguageModel.ofCompletion complete).ReadsText := by
  intro mode prompt other bindings values h
  rw [ofCompletion_predict, ofCompletion_predict, h]

/-- So it is to the client of a chat service, whoever carries its requests. -/
lemma ChatClient.model_readsText (client : ChatClient) (transport : Http.Transport σ) :
    (client.model transport).ReadsText :=
  LanguageModel.ofCompletion_readsText _

/-! ### From the result to the answer -/

namespace NarrativeEngine

/-- The call of the model that phrases a result. -/
def phrasingCall (engine : NarrativeEngine σ) (mode : CallMode) (question : Question)
    (sql raw : String) (outcome : Except Failure String) : Call :=
  ⟨.completion mode engine.synthesisPrompt
    [("query_str", question.text), ("sql_query", sql), ("sql_response_str", raw)], outcome⟩

variable {engine : NarrativeEngine σ} {mode : CallMode} {question : Question} {tables sql : String}
  {state reached : σ} {result : Execution}

/-- An engine under watch ends like the engine itself, in the same state of the collaborators. -/
lemma ask_eq_watched (h : engine.container.tableContext = .ok tables) (mode : CallMode)
    (question : Question) (state : σ) :
    engine.ask mode question state
      = ((engine.watched.ask mode question (state, [])).1,
          (engine.watched.ask mode question (state, [])).2.1) := by
  obtain ⟨made, heq, -⟩ := engine.ask_keeps mode question h state []
  rw [heq]

/-- Under watch, a result that a model is to phrase adds one call to the record. -/
lemma watched_ask_of_phrased (h : engine.container.tableContext = .ok tables)
    (hsynthesize : engine.synthesize = true) {start : Watched σ} {calls : List Call}
    (hexecute : engine.watched.executeFrom mode question tables start
      = (.ok (sql, result), reached, calls))
    {outcome : Except Failure String} {last : σ}
    (hrun : engine.llm.predict mode engine.synthesisPrompt [("query_str", question.text),
      ("sql_query", sql), ("sql_response_str", result.text)] reached = (outcome, last)) :
    engine.watched.ask mode question start
      = (outcome.map (.ofText · result.metadata), last,
          calls ++ [engine.phrasingCall mode question sql result.text outcome]) := by
  have hcontainer : engine.watched.container.tableContext = .ok tables := h
  have hphrase : engine.watched.phrase mode question sql result (reached, calls)
      = (outcome, last, calls ++ [engine.phrasingCall mode question sql result.text outcome]) := by
    rw [phrase_eq, if_pos (show engine.watched.synthesize = true from hsynthesize)]
    exact (Session.watched_recorded (.completion ..) _).apply_of hrun
  rw [ask_eq_execute hcontainer, Session.bind_eq_andThen, Session.andThen_of_ok hexecute]
  cases outcome with
  | error failure => exact Session.andThen_of_error hphrase
  | ok words => exact Session.andThen_of_ok hphrase

end NarrativeEngine

/-! ### Engines of both kinds -/

/-- Engines of both kinds that differ in their kind alone: over the same collaborators, with the
same prompt for statements, with statements read as they are, and with prompts that show a model the
same text when it is to phrase a result, if it is to. -/
structure NarrativeEngine.Counterpart (narrative : NarrativeEngine σ) (engine : TableEngine σ) :
    Prop where
  database : engine.database = narrative.database
  llm : engine.llm = narrative.llm
  sqlPrompt : engine.sqlPrompt = narrative.sqlPrompt
  reader : engine.reader = .plain
  synthesize : engine.synthesize = narrative.synthesize
  responseMode : engine.responseMode = .compact
  synthesisText : ∀ question sql raw,
    (engine.synthesisPrompt.bind [("sql_query", sql)]).render
        [("query_str", question), ("context_str", raw)]
      = narrative.synthesisPrompt.render
        [("query_str", question), ("sql_query", sql), ("sql_response_str", raw)]

namespace NarrativeEngine.Counterpart

variable {narrative : NarrativeEngine σ} {engine : TableEngine σ}

/-- Under watch they still differ in their kind alone. -/
lemma watched (h : narrative.Counterpart engine) (source : TableSource σ) :
    narrative.watched.Counterpart (engine.watched source) where
  database := congrArg Database.watched h.database
  llm := congrArg LanguageModel.watched h.llm
  sqlPrompt := h.sqlPrompt
  reader := congrArg StatementReader.watched h.reader
  synthesize := h.synthesize
  responseMode := h.responseMode
  synthesisText := h.synthesisText

/-- A completion that needs no reading leads both engines to the same result. -/
lemma executeFrom_eq (h : narrative.Counterpart engine) {mode : CallMode} {question : Question}
    {tables : String} {state : σ}
    (hfirst : ∀ completion, (narrative.llm.predict mode narrative.sqlPrompt
      [("query_str", question.text), ("schema", tables), ("dialect", narrative.database.dialect)]
      state).1 = .ok completion → Statement.Unadorned completion) :
    engine.executeFrom mode question tables state
      = narrative.executeFrom mode question tables state := by
  rw [TableEngine.executeFrom, NarrativeEngine.executeFrom, TableEngine.generate_eq, h.database,
    h.llm, h.sqlPrompt, h.reader]
  rcases hpredict : narrative.llm.predict mode narrative.sqlPrompt [("query_str", question.text),
    ("schema", tables), ("dialect", narrative.database.dialect)] state
    with ⟨failure | completion, reached⟩
  · exact (Session.andThen_of_error hpredict).trans (Session.andThen_of_error hpredict).symm
  · have hunadorned := hfirst completion (congrArg Prod.fst hpredict)
    rw [Session.bind_eq_andThen, Session.bind_eq_andThen, Session.andThen_of_ok hpredict,
      Session.andThen_of_ok hpredict, StatementReader.read_plain, pure_bind,
      hunadorned.ofCompletion_eq]

end NarrativeEngine.Counterpart

/-! ### Two runs -/

/-- A run of the engine over a prepared description and a run of its counterpart over tables, with
their records. -/
structure SameConversation (llm : LanguageModel σ) (synthesize : Bool)
    (old new : Except Failure Answer × Watched σ) : Prop where
  /-- The same texts reach the model and the same statements the database, in the same order. -/
  exchanges : AskSql.exchanges new.2.2 = AskSql.exchanges old.2.2
  /-- As long as no statement has yielded a result, both fail, and with the same failure. -/
  failed : resultIn old.2.2 = none → ∃ failure, old.1 = .error failure ∧ new.1 = .error failure
  /-- Results that are not phrased are given back alike. -/
  raw : synthesize = false → new.1 = old.1
  /-- Two answers know the same. -/
  metadata : ∀ answer answer', old.1 = .ok answer → new.1 = .ok answer' →
    answer'.metadata = answer.metadata
  /-- A model that reads texts phrases the result for both or fails both. Its words are trimmed, and
  the result is their source; a failure of the model is told as one of the synthesis, with the same
  fault, and any other failure as it is. -/
  phrased : synthesize = true → llm.ReadsText → ∀ result, resultIn old.2.2 = some result →
    ∃ outcome metadata, old.1 = outcome.map (.ofText · metadata)
      ∧ new.1 = TableEngine.phrasing result.text metadata outcome
  /-- Such a model, and every other collaborator, is in the same state afterwards. -/
  state : llm.ReadsText → new.2.1 = old.2.1

namespace SameConversation

variable {llm : LanguageModel σ} {synthesize : Bool} {before calls : List Call}

/-- Two runs that failed before there was a result. -/
lemma of_failure (hbefore : AskSql.exchanges before = []) (hnone : resultIn calls = none)
    (failure : Failure) (reached : σ) :
    SameConversation llm synthesize (.error failure, reached, calls)
      (.error failure, reached, before ++ calls) where
  exchanges := by rw [exchanges_append, hbefore, List.nil_append]
  failed _ := ⟨failure, rfl, rfl⟩
  raw _ := rfl
  metadata _ _ h := by cases h
  phrased _ _ result h := by
    rw [hnone] at h
    cases h
  state _ := rfl

/-- Two runs that gave a result back. -/
lemma of_raw (hbefore : AskSql.exchanges before = []) {result : Execution}
    (hsome : resultIn calls = some result) (answer : Answer) (reached : σ) :
    SameConversation llm false (.ok answer, reached, calls)
      (.ok answer, reached, before ++ calls) where
  exchanges := by rw [exchanges_append, hbefore, List.nil_append]
  failed h := by
    rw [hsome] at h
    cases h
  raw _ := rfl
  metadata _ _ hold hnew := by rw [← Except.ok.inj hold, ← Except.ok.inj hnew]
  phrased h := by cases h
  state _ := rfl

/-- Two runs in which a model was to phrase a result, from prompts with the same text. -/
lemma of_phrased (hbefore : AskSql.exchanges before = []) {raw : Execution}
    (hsome : resultIn calls = some raw) {mode : CallMode} {prompt other : Prompt}
    {bindings values : Bindings} (htext : other.render values = prompt.render bindings)
    {reached last last' : σ} {outcome outcome' : Except Failure String}
    (hold : llm.predict mode prompt bindings reached = (outcome, last))
    (hnew : llm.predict mode other values reached = (outcome', last')) (metadata : Metadata) :
    SameConversation llm true
      (outcome.map (.ofText · metadata), last,
        calls ++ [⟨.completion mode prompt bindings, outcome⟩])
      (TableEngine.phrasing raw.text metadata outcome', last',
        before ++ calls ++ [⟨.completion mode other values, outcome'⟩]) := by
  have hsame : llm.ReadsText → outcome = outcome' ∧ last = last' := by
    intro hreads
    rw [hreads mode other prompt values bindings htext, hold] at hnew
    exact Prod.mk.inj hnew
  have hcall : AskSql.exchanges [⟨.completion mode other values, outcome'⟩]
      = AskSql.exchanges [⟨.completion mode prompt bindings, outcome⟩] :=
    congrArg (fun rendered => [Exchange.text mode rendered]) htext
  refine { exchanges := ?_, failed := fun h => ?_, raw := fun h => ?_,
           metadata := fun answer answer' h h' => ?_,
           phrased := fun _ hreads result hresult => ?_,
           state := fun hreads => (hsame hreads).2.symm }
  · rw [exchanges_append, exchanges_append, hbefore, List.nil_append, exchanges_append, hcall]
  · rw [resultIn_append_completion, hsome] at h
    cases h
  · cases h
  · cases outcome with
    | error failure => cases h
    | ok words =>
        obtain ⟨words', -, rfl⟩ := TableEngine.exists_words_of_phrasing h'
        rw [← Except.ok.inj h]
        rfl
  · rw [resultIn_append_completion, hsome] at hresult
    obtain ⟨rfl, -⟩ := hsame hreads
    exact ⟨outcome, metadata, rfl, by rw [Option.some.inj hresult]⟩

end SameConversation

namespace NarrativeEngine.Counterpart

variable {narrative : NarrativeEngine σ} {engine : TableEngine σ}

/-- Engines that differ in their kind alone hold the same conversation. -/
lemma sameConversation (h : narrative.Counterpart engine) {source : TableSource σ} {mode : CallMode}
    {question : Question} {state described : σ} {tables : String}
    (htables : narrative.container.tableContext = .ok tables)
    (hcontext : source.provider.context mode engine.database question state
      = (.ok tables, described))
    (hfirst : ∀ completion, (narrative.llm.predict mode narrative.sqlPrompt
      [("query_str", question.text), ("schema", tables), ("dialect", narrative.database.dialect)]
      described).1 = .ok completion → Statement.Unadorned completion) :
    SameConversation narrative.llm narrative.synthesize
      (narrative.watched.ask mode question (described, []))
      ((engine.watched source).ask mode question (state, [])) := by
  obtain ⟨before, hbefore, hdescribed⟩ := engine.watched_tableContext source hcontext
  obtain ⟨run, reached, calls, hresult, hexecuted⟩ :=
    narrative.watched_executeFrom mode question tables described
  have hwatched : narrative.watched.container.tableContext = .ok tables := htables
  have hold : narrative.watched.executeFrom mode question tables (described, [])
      = (run, reached, calls) := hexecuted []
  have halike : (engine.watched source).executeFrom mode question tables (described, before)
      = narrative.watched.executeFrom mode question tables (described, before) :=
    (h.watched source).executeFrom_eq hfirst
  have hnew : (engine.watched source).execute mode question (state, [])
      = (run, reached, before ++ calls) :=
    (Session.andThen_of_ok hdescribed).trans (halike.trans (hexecuted before))
  rcases run with failure | ⟨sql, result⟩
  · have hnone : resultIn calls = none := Option.map_eq_none_iff.mp hresult
    rw [TableEngine.ask_of_failure hnew, NarrativeEngine.ask_of_failure hwatched hold]
    exact .of_failure hbefore hnone failure reached
  · obtain ⟨raw, hsome, hraw⟩ := Option.map_eq_some_iff.mp hresult
    rw [TableEngine.ask_of_result hnew]
    cases hsynthesize : narrative.synthesize with
    | false =>
        have hoff : (engine.watched source).synthesize = false := h.synthesize.trans hsynthesize
        rw [TableEngine.respond_raw hoff, NarrativeEngine.ask_of_raw hwatched hsynthesize hold]
        exact .of_raw hbefore hsome _ reached
    | true =>
        have hon : engine.synthesize = true := h.synthesize.trans hsynthesize
        rcases hphrase : narrative.llm.predict mode narrative.synthesisPrompt
          [("query_str", question.text), ("sql_query", sql), ("sql_response_str", result.text)]
          reached with ⟨outcome, last⟩
        rcases hrespond : narrative.llm.predict mode
          (engine.synthesisPrompt.bind [("sql_query", sql)])
          [("query_str", question.text), ("context_str", result.text)] reached
          with ⟨outcome', last'⟩
        have hengine := hrespond
        rw [← h.llm] at hengine
        rw [NarrativeEngine.watched_ask_of_phrased htables hsynthesize hold hphrase,
          TableEngine.watched_respond_compact hon h.responseMode source hengine]
        have hsame := SameConversation.of_phrased hbefore hsome
          (h.synthesisText question.text sql result.text) hphrase hrespond result.metadata
        rwa [hraw] at hsame

end NarrativeEngine.Counterpart

/-! ### The usual prompts -/

namespace Prompt

/-- The text that a model is given to phrase a result. -/
def synthesisText (question sql raw : String) : String :=
  String.join
    ["Given an input question, synthesize a response from the query results.\nQuery: ", question,
      "\nSQL: ", sql, "\nSQL Response: ", raw, "\nResponse: "]

/-- With the result under either name, a prompt that phrases it has this text. -/
lemma render_synthesisSegments {p : Prompt} {name : String}
    (htemplate : p.template = Template.write (synthesisSegments name))
    (hnames : ∀ segment ∈ synthesisSegments name, segment.WellNamed) {question sql raw : String}
    {bindings : Bindings} (hquestion : bindings.reverse.lookup "query_str" = some question)
    (hsql : bindings.reverse.lookup "sql_query" = some sql)
    (hraw : bindings.reverse.lookup name = some raw)
    (hname : synthesisValue question sql raw name = raw) :
    p.render bindings = .ok (synthesisText question sql raw) := by
  have hvalues : ∀ other, .slot other ∈ synthesisSegments name →
      bindings.reverse.lookup other = some (synthesisValue question sql raw other) := by
    intro other hother
    have hslots : other = "query_str" ∨ other = "sql_query" ∨ other = name := by
      simpa [synthesisSegments] using hother
    rcases hslots with rfl | rfl | rfl
    · exact hquestion
    · exact hsql
    · rw [hraw, hname]
  have hquery : synthesisValue question sql raw "sql_query" = sql := rfl
  rw [render_of_write htemplate hnames hvalues, synthesisText]
  simp only [synthesisSegments, List.map_cons, List.map_nil, Template.Segment.expand, hname, hquery]
  rfl

/-- The usual prompts of both engines show a model the same text. -/
lemma sqlSynthesisV2_render_eq (question sql raw : String) :
    (sqlSynthesisV2.bind [("sql_query", sql)]).render
        [("query_str", question), ("context_str", raw)]
      = sqlSynthesis.render
        [("query_str", question), ("sql_query", sql), ("sql_response_str", raw)] := by
  have hnew : ∀ segment ∈ synthesisSegments "context_str", segment.WellNamed := by decide
  have hold : ∀ segment ∈ synthesisSegments "sql_response_str", segment.WellNamed := by decide
  have htext : sqlSynthesisV2.render [("sql_query", sql), ("query_str", question),
      ("context_str", raw)] = .ok (synthesisText question sql raw) :=
    render_synthesisSegments rfl hnew rfl rfl rfl rfl
  rw [render_bind]
  exact htext.trans (render_synthesisSegments rfl hold rfl rfl rfl rfl).symm

end Prompt

/-- The engine over a prepared description with its usual prompts. -/
def NarrativeEngine.usual (db : Database σ) (llm : LanguageModel σ) (container : ContextContainer)
    (synthesize : Bool) : NarrativeEngine σ where
  database := db
  container := container
  llm := llm
  synthesize := synthesize

/-- If nothing but the synthesis is chosen, the prompts of an engine over tables are accepted. -/
lemma EngineOptions.build_usual (db : Database σ) (llm : LanguageModel σ)
    (provider : ContextProvider σ) (synthesize : Bool) :
    ({ synthesize := synthesize } : EngineOptions).build db llm provider .plain
      = .ok (({ synthesize := synthesize } : EngineOptions).assembled db llm provider .plain) := by
  have haccepted :
      Prompt.PhrasesAnswers ({ synthesize := synthesize } : EngineOptions).answerPrompt :=
    Prompt.sqlSynthesisV2_phrasesAnswers
  exact build_of_phrasesAnswers haccepted db llm provider .plain

/-- The usual engines differ in their kind alone. -/
lemma NarrativeEngine.usual_counterpart (db : Database σ) (llm : LanguageModel σ)
    (provider : ContextProvider σ) (container : ContextContainer) (synthesize : Bool) :
    (NarrativeEngine.usual db llm container synthesize).Counterpart
      (({ synthesize := synthesize } : EngineOptions).assembled db llm provider .plain) where
  database := rfl
  llm := rfl
  sqlPrompt := rfl
  reader := rfl
  synthesize := rfl
  responseMode := rfl
  synthesisText := Prompt.sqlSynthesisV2_render_eq

/-- **Both engines hold the same conversation.** Take the engine over a prepared description and the
engine over tables with the same description, with the prompts that they use unless they are given
others, and with their synthesis both on or both off. If the first completion is nothing but a
statement up to the guess at the result, the same texts reach the model and the same statements the
database, in the same order. Without synthesis the results are the same; with it, for a model that
reads texts, as the client of a chat service does, the engine over tables trims the answer, adds the
result as its source, and tells a failure of the model in the synthesis as one of the synthesis,
with the same fault; every other failure is the same, and so is what the answers know. -/
theorem EngineOptions.build_sameConversation {σ : Type} (db : Database σ) (llm : LanguageModel σ)
    (source : TableSource σ) (documents : Option (List (String × String))) (synthesize : Bool)
    {mode : CallMode} {question : Question} {state described : σ} {tables : String}
    (hcontext : source.provider.context mode db question state = (.ok tables, described))
    (hfirst : ∀ completion, (llm.predict mode .textToSql
      [("query_str", question.text), ("schema", tables), ("dialect", db.dialect)] described).1
        = .ok completion → Statement.Unadorned completion) :
    (∀ (client : ChatClient) (transport : Http.Transport σ), (client.model transport).ReadsText)
    ∧ ∃ engine,
      ({ synthesize := synthesize } : EngineOptions).build db llm source.provider .plain
        = .ok engine
      ∧ ∃ old new,
        (NarrativeEngine.usual db llm ⟨some tables, documents⟩ synthesize).watched.ask mode question
          (described, []) = old
        ∧ (engine.watched source).ask mode question (state, []) = new
        ∧ (NarrativeEngine.usual db llm ⟨some tables, documents⟩ synthesize).ask mode question
          described = (old.1, old.2.1)
        ∧ engine.ask mode question state = (new.1, new.2.1)
        ∧ SameConversation llm synthesize old new := by
  have hbuild := build_usual db llm source.provider synthesize
  have hcounterpart := NarrativeEngine.usual_counterpart db llm source.provider
    ⟨some tables, documents⟩ synthesize
  have hplain := TableEngine.ask_eq_watched
    (({ synthesize := synthesize } : EngineOptions).assembled db llm source.provider .plain) source
    mode question state
  exact ⟨ChatClient.model_readsText, _, hbuild, _, _, rfl, rfl,
    NarrativeEngine.ask_eq_watched rfl mode question described, hplain,
    hcounterpart.sameConversation rfl hcontext hfirst⟩

/-! ### A model that is short of words -/

/-- A model that writes a statement without a label when it is asked first, and a name among blanks
from then on. -/
def curtModel : LanguageModel Nat where
  predict _ _ _ := fun asked =>
    (.ok (if asked = 0 then "SELECT name FROM capital\nSQLResult: ?" else " Oslo. "), asked + 1)

/-- A database with one table and one result. -/
def capitalDatabase : Database Nat where
  dialect := "sqlite"
  usableTables := .done ["capital"]
  describe table := .done ("Table '" ++ table ++ "'")
  run _ := .done ⟨"[('Oslo',)]", .empty⟩

/-- Its table. -/
def capitalSource : TableSource Nat := .selected [.named "capital"] .empty

/-- A question about it. -/
def whichCapital : Question := { text := "Which capital?" }

/-- What is known after the statement has run. -/
def capitalMetadata : Metadata := .insert .empty sqlQueryKey (.text "SELECT name FROM capital")

lemma curtModel_readsText : curtModel.ReadsText := fun _ _ _ _ _ _ => rfl

lemma curtModel_unadorned {mode : CallMode} {prompt : Prompt} {bindings : Bindings}
    {completion : String} (h : (curtModel.predict mode prompt bindings 0).1 = .ok completion) :
    Statement.Unadorned completion := by
  obtain rfl := Except.ok.inj h
  exact ⟨(Text.occursIn_eq_false_iff _ _).mp rfl, by decide⟩

/-- Both engines run its statement, and one of them trims its words. -/
theorem curtModel_sameConversation :
    capitalSource.provider.context .blocking capitalDatabase whichCapital 0
        = (.ok "Table 'capital'", 0)
    ∧ (∀ completion, (curtModel.predict .blocking .textToSql [("query_str", whichCapital.text),
        ("schema", "Table 'capital'"), ("dialect", capitalDatabase.dialect)] 0).1 = .ok completion →
          Statement.Unadorned completion)
    ∧ (NarrativeEngine.usual capitalDatabase curtModel ⟨some "Table 'capital'", none⟩ true).ask
        .blocking whichCapital 0 = (.ok (.ofText " Oslo. " capitalMetadata), 2)
    ∧ ∃ engine, ({ synthesize := true } : EngineOptions).build capitalDatabase curtModel
        capitalSource.provider .plain = .ok engine
      ∧ engine.ask .blocking whichCapital 0
        = (.ok ⟨some "Oslo.", [{ text := "[('Oslo',)]" }], capitalMetadata⟩, 2) := by
  have hcontext : capitalSource.provider.context .blocking capitalDatabase whichCapital 0
      = (.ok "Table 'capital'", 0) := rfl
  have hasked : (NarrativeEngine.usual capitalDatabase curtModel
      ⟨some "Table 'capital'", none⟩ true).ask .blocking whichCapital 0
        = (.ok (.ofText " Oslo. " capitalMetadata), 2) := rfl
  obtain ⟨-, engine, hbuild, old, new, hwatched, -, hold, hnew, hsame⟩ :=
    EngineOptions.build_sameConversation capitalDatabase curtModel capitalSource none true
      hcontext fun _ => curtModel_unadorned
  refine ⟨hcontext, fun _ => curtModel_unadorned, hasked, engine, hbuild, ?_⟩
  have hresult : resultIn old.2.2 = some ⟨"[('Oslo',)]", .empty⟩ := by
    rw [← hwatched]
    rfl
  obtain ⟨outcome, metadata, hphrased, hphrasing⟩ :=
    hsame.phrased rfl curtModel_readsText _ hresult
  have hanswer : outcome.map (Answer.ofText · metadata) = .ok (.ofText " Oslo. " capitalMetadata) :=
    hphrased.symm.trans (congrArg Prod.fst (hold.symm.trans hasked))
  have hreached : old.2.1 = 2 := congrArg Prod.snd (hold.symm.trans hasked)
  cases outcome with
  | error failure => cases hanswer
  | ok words =>
      obtain ⟨hwords, -, rfl⟩ := Answer.mk.inj (Except.ok.inj hanswer)
      obtain rfl := Option.some.inj hwords
      rw [hnew, hphrasing, hsame.state curtModel_readsText, hreached]
      rfl

end AskSql
