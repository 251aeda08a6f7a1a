import AskSql.Client
import AskSql.Proofs.Engine.Metadata
import AskSql.Proofs.Engine.SynthesisPrompt
import AskSql.Proofs.Text.Trimming

/-!
Engines whose model sends nothing.

Under the settings that send nothing a completion is made up from the end of the prompt: after the
cue for a statement it is a fixed one, and a fixed text otherwise. The usual prompts end with words
of their own, and those for a statement and those for an answer end differently. So whatever is put
in for their variables, the first call of the model gets the statement and the second one the text,
and every question is answered if its tables are described and the statement runs.

* `ChatClient.madeUp`, `ChatClient.offlineCompletion_of_cue`,
  `ChatClient.offlineCompletion_of_response`: what is made up, and after which words.
* `Prompt.render_asking`, `Prompt.render_phrasing`: how the texts of the usual prompts end.
* `StatementReader.read_madeUp`: every reader takes the same statement from what is made up.
* `TableEngine.SendsNothing`, `TableEngine.ask_of_sendsNothing`: such engines, and their answers.
* `EngineOptions.finish_answersOffline`: every engine with the usual prompts is one of them.
-/

namespace AskSql

open Template (Segment)

variable {σ : Type}

/-! ### Completions that are made up -/

namespace ChatClient

/-- The completion that is made up for a statement. -/
def madeUp : String := "SQLQuery: SELECT 1\nSQLResult: [(1,)]\nAnswer: 1"

/-- Of a label with a colon at its end and a blank behind it, whatever stands before it, the blank
is trimmed. -/
lemma trimEnd_label (body : List Char) {label : List Char} (hlast : label.getLast? = some ':') :
    Text.trimEnd Text.isBlank (body ++ (label ++ [' '])) = body ++ label := by
  have hne : label ≠ [] := by
    rintro rfl
    cases hlast
  have hblank : Text.trimEnd Text.isBlank [' '] = [] := by decide
  have hcolon : ∀ c ∈ (body ++ label).getLast?, Text.isBlank c = false := by
    intro c hc
    rw [List.getLast?_append_of_ne_nil body hne, hlast] at hc
    obtain rfl := Option.some.inj hc
    decide
  rw [← List.append_assoc, Text.trimEnd_append_bare (by simp [hne]) hcolon, hblank, List.append_nil]

/-- Behind the cue a statement is made up. -/
lemma offlineCompletion_of_cue (body : String) :
    offlineCompletion (body ++ "\nSQLQuery: ") = madeUp := by
  have htext : (body ++ "\nSQLQuery: ").toList = (body.toList ++ ['\n']) ++ (cue ++ [' ']) := by
    rw [String.toList_append, List.append_assoc]
    rfl
  have hcue : cue.isSuffixOf ((body.toList ++ ['\n']) ++ cue) = true :=
    List.isSuffixOf_iff_suffix.mpr (List.suffix_append _ _)
  have hlast : cue.getLast? = some ':' := rfl
  rw [offlineCompletion, htext, trimEnd_label _ hlast, if_pos hcue]
  rfl

/-- Behind the label of an answer nothing of the kind is: it is as long as the cue, and not the
same. -/
lemma offlineCompletion_of_response (body : String) :
    offlineCompletion (body ++ "\nResponse: ") = "Dummy response" := by
  have htext : (body ++ "\nResponse: ").toList
      = (body.toList ++ ['\n']) ++ ("Response:".toList ++ [' ']) := by
    rw [String.toList_append, List.append_assoc]
    rfl
  have hnot : ¬ cue <:+ (body.toList ++ ['\n']) ++ "Response:".toList := by
    intro hcue
    have hlength : cue.length = "Response:".toList.length := by decide
    have hsuffix := List.suffix_of_suffix_length_le hcue (List.suffix_append _ _) hlength.le
    exact absurd (hsuffix.eq_of_length hlength) (by decide)
  have hlast : "Response:".toList.getLast? = some ':' := rfl
  rw [offlineCompletion, htext, trimEnd_label _ hlast,
    if_neg (mt List.isSuffixOf_iff_suffix.mp hnot)]

/-- The model of a client that sends nothing makes up its completions. -/
lemma model_of_offline {client : ChatClient} (h : client.isOffline = true)
    (transport : Http.Transport σ) :
    client.model transport = .ofCompletion fun _ prompt => .done (offlineCompletion prompt) := by
  have hcomplete : client.complete transport
      = fun _ prompt => .done (offlineCompletion prompt) := by
    funext mode prompt
    rw [complete_eq, if_pos h]
    rfl
  rw [model, hcomplete]

end ChatClient

/-! ### How the usual prompts end -/

namespace Prompt

/-- A prompt that ends with words of its own keeps them at the end of its text. -/
lemma exists_render_of_last {p : Prompt} {segments : List Segment} {last : String}
    (htemplate : p.template = Template.write segments)
    (hnames : ∀ segment ∈ segments, segment.WellNamed)
    (hlast : segments.getLast? = some (.text last)) {bindings : Bindings}
    {value : String → String}
    (hvalues : ∀ name, .slot name ∈ segments → bindings.reverse.lookup name = some (value name)) :
    ∃ body, p.render bindings = .ok (body ++ last) := by
  obtain ⟨front, rfl⟩ := List.getLast?_eq_some_iff.mp hlast
  have hjoin : String.join ((front ++ [Segment.text last]).map (Segment.expand value))
      = String.join (front.map (Segment.expand value)) ++ last := by
    simp [Segment.expand]
  exact ⟨_, (render_of_write htemplate hnames hvalues).trans (congrArg Except.ok hjoin)⟩

/-- What the variables of a prompt for statements stand for. -/
def askingValue (question tables dialect name : String) : String :=
  if name = "query_str" then question else if name = "schema" then tables else dialect

lemma lookup_asking (question tables dialect : String) {name : String}
    (h : name = "dialect" ∨ name = "schema" ∨ name = "query_str") :
    [("query_str", question), ("schema", tables), ("dialect", dialect)].reverse.lookup name
      = some (askingValue question tables dialect name) := by
  rcases h with rfl | rfl | rfl
  · rfl
  · rfl
  · rfl

/-- The prompts for statements end with the cue. -/
lemma render_asking {p : Prompt} (h : p = .textToSql ∨ p = .textToSqlVector)
    (question tables dialect : String) :
    ∃ body, p.render [("query_str", question), ("schema", tables), ("dialect", dialect)]
      = .ok (body ++ "\nSQLQuery: ") := by
  rcases h with rfl | rfl
  · refine exists_render_of_last rfl (by decide) rfl fun name hname =>
      lookup_asking question tables dialect ?_
    simpa [taskSegments, cueSegments] using hname
  · refine exists_render_of_last rfl (by decide) rfl fun name hname =>
      lookup_asking question tables dialect ?_
    simpa [taskSegments, cueSegments] using hname

/-- The prompt for answers ends with a label of its own. -/
lemma render_phrasing (question sql raw : String) :
    ∃ body, (sqlSynthesisV2.bind [("sql_query", sql)]).render
        [("query_str", question), ("context_str", raw)]
      = .ok (body ++ "\nResponse: ") := by
  have hnames : ∀ segment ∈ synthesisSegments "context_str", segment.WellNamed := by decide
  rw [render_bind]
  refine exists_render_of_last rfl hnames rfl fun name hname =>
    lookup_staged question sql raw ?_
  simpa [synthesisSegments] using hname

end Prompt

/-! ### The statement that is made up -/

lemma Statement.ofCompletion_madeUp : Statement.ofCompletion ChatClient.madeUp = "SELECT 1" := by
  decide +kernel

/-- It has no place for a vector, so every reader takes it as it is. -/
lemma StatementReader.read_madeUp (reader : StatementReader σ) (mode : CallMode)
    (question : Question) :
    reader.read mode ChatClient.madeUp question = .done "SELECT 1" := by
  cases reader with
  | plain =>
      rw [read_plain, Statement.ofCompletion_madeUp]
      rfl
  | vector model =>
      have hplace : ¬ Statement.HasPlace "SELECT 1" := (Text.occursIn_eq_false_iff _ _).mp rfl
      rw [read_vector, Statement.ofCompletion_madeUp]
      exact Statement.fillVector_of_no_place hplace model mode question

/-! ### Engines -/

/-- The answer to every question when nothing is sent: the text that is made up, over the result of
the statement that is made up, or that result as it is. -/
def Answer.offline (synthesize : Bool) (responseMode : ResponseMode) (raw : String)
    (metadata : Metadata) : Answer :=
  match synthesize, responseMode with
  | true, .compact =>
      { text := some "Dummy response", sources := [{ text := raw }], metadata := metadata }
  | true, .noText => .unphrased raw metadata
  | false, _ => .ofText raw metadata

namespace TableEngine

/-- An engine with the usual prompts over a database, whose model sends nothing. -/
structure SendsNothing (engine : TableEngine σ) (db : Database σ) (provider : ContextProvider σ) :
    Prop where
  database : engine.database = db
  provider : engine.provider = provider
  sqlPrompt : engine.sqlPrompt = .textToSql ∨ engine.sqlPrompt = .textToSqlVector
  synthesisPrompt : engine.synthesisPrompt = .sqlSynthesisV2
  llm : engine.llm = .ofCompletion fun _ prompt => .done (ChatClient.offlineCompletion prompt)

namespace SendsNothing

variable {engine : TableEngine σ} {db : Database σ} {provider : ContextProvider σ}

lemma predict_of_render (h : engine.SendsNothing db provider) {prompt : Prompt}
    {bindings : Bindings} {text : String} (hrender : prompt.render bindings = .ok text)
    (mode : CallMode) :
    engine.llm.predict mode prompt bindings = .done (ChatClient.offlineCompletion text) := by
  rw [h.llm, LanguageModel.ofCompletion_predict, hrender]
  rfl

/-- Whatever the question and the tables are, the completion is the one with the statement. -/
lemma generate (h : engine.SendsNothing db provider) (mode : CallMode) (question : Question)
    (tables : String) : engine.generate mode question tables = .done ChatClient.madeUp := by
  obtain ⟨body, hbody⟩ :=
    Prompt.render_asking h.sqlPrompt question.text tables engine.database.dialect
  rw [generate_eq, h.predict_of_render hbody mode, ChatClient.offlineCompletion_of_cue]

/-- Whatever the result is, it is answered. -/
lemma respond (h : engine.SendsNothing db provider) (mode : CallMode) (question : Question)
    (sql : String) (result : Execution) :
    engine.respond mode question sql result
      = .done (.offline engine.synthesize engine.responseMode result.text result.metadata) := by
  cases hsynthesize : engine.synthesize with
  | false => exact respond_raw hsynthesize mode question sql result
  | true =>
      cases hmode : engine.responseMode with
      | noText => exact respond_noText hsynthesize hmode mode question sql result
      | compact =>
          obtain ⟨body, hbody⟩ := Prompt.render_phrasing question.text sql result.text
          rw [← h.synthesisPrompt] at hbody
          rw [respond_compact hsynthesize hmode, h.predict_of_render hbody mode,
            ChatClient.offlineCompletion_of_response]
          rfl

end SendsNothing

variable {engine : TableEngine σ} {db : Database σ} {provider : ContextProvider σ}
  {mode : CallMode} {question : Question} {state described last : σ} {tables raw : String}
  {metadata : Metadata}

/-- If the tables are described and the statement runs, the question is answered. -/
lemma ask_of_sendsNothing (h : engine.SendsNothing db provider)
    (hcontext : provider.context mode db question state = (.ok tables, described))
    (hrun : db.run "SELECT 1" described = (.ok ⟨raw, metadata⟩, last)) :
    engine.ask mode question state
      = (.ok (.offline engine.synthesize engine.responseMode raw
          (metadata.insert sqlQueryKey (.text "SELECT 1"))), last) := by
  have hrecorded : engine.database.runRecorded "SELECT 1" described
      = (.ok ⟨raw, metadata.insert sqlQueryKey (.text "SELECT 1")⟩, last) := by
    rw [h.database]
    exact Session.andThen_of_ok hrun
  rw [← h.provider, ← h.database, ← tableContext_eq] at hcontext
  rw [ask_of_context hcontext, askOver, h.generate, Session.bind_eq_andThen]
  show (engine.reader.read mode ChatClient.madeUp question >>= _) described = _
  rw [StatementReader.read_madeUp, Session.bind_eq_andThen]
  show (engine.database.runRecorded "SELECT 1" >>= _) described = _
  rw [Session.bind_eq_andThen, Session.andThen_of_ok hrecorded, h.respond]
  rfl

/-- The record of a run that is answered shows the statement of the answer, and no other one. -/
lemma executions_of_ask {source : TableSource σ} (hprovider : source.provider = engine.provider)
    {answer : Answer} (hask : (engine.ask mode question state).1 = .ok answer) {sql : String}
    (hsql : answer.sqlQuery = some sql) :
    ∃ result, executions ((engine.watched source).ask mode question (state, [])).2.2
      = [⟨.execution sql, .ok result⟩] := by
  have hover : engine.over source = engine := by rw [TableEngine.over, hprovider]
  have hrun := engine.ask_keepsDiscipline source mode question state
  rw [hover] at hrun
  obtain ⟨steps, hsteps, hcalls⟩ := hrun.of_ok answer (hrun.same.1.trans hask)
  obtain ⟨sql', result, hexecutions, hrecords⟩ := hsteps.records
  obtain rfl := Option.some.inj (hrecords.sqlQuery.symm.trans hsql)
  exact ⟨result, hcalls ▸ hexecutions⟩

end TableEngine

/-- Who describes the tables in an engine of a kind, with the notes of its options. -/
def EngineKind.provider (notes : Dictionary String) : EngineKind σ → ContextProvider σ
  | .nlSql tables => .chosen tables notes
  | .pgvector tables => .chosen tables notes
  | .overRetriever retriever heading => .retrieved retriever heading
  | .custom provider _ => provider

namespace Answer

lemma offline_metadata (synthesize : Bool) (responseMode : ResponseMode) (raw : String)
    (metadata : Metadata) : (offline synthesize responseMode raw metadata).metadata = metadata := by
  cases synthesize <;> cases responseMode <;> rfl

end Answer

namespace EngineOptions

lemma answerPrompt_of_none {options : EngineOptions} (h : options.synthesisPrompt = none) :
    options.answerPrompt = .sqlSynthesisV2 := by
  rw [answerPrompt, h, Option.getD_none]

/-- Under the settings that send nothing, an engine with the usual prompts sends nothing. -/
lemma assembled_sendsNothing {options : EngineOptions}
    (hsql : options.sqlPrompt.getD .textToSql = .textToSql
      ∨ options.sqlPrompt.getD .textToSql = .textToSqlVector)
    (hanswer : options.synthesisPrompt = none) (db : Database σ) (transport : Http.Transport σ)
    (provider : ContextProvider σ) (reader : StatementReader σ) :
    (options.assembled db (Models.ofSettings .offline transport).llm provider reader).SendsNothing
      db provider where
  database := rfl
  provider := rfl
  sqlPrompt := hsql
  synthesisPrompt := answerPrompt_of_none hanswer
  llm := ChatClient.model_of_offline rfl transport

/-- Whatever is chosen apart from the prompts, an engine of any kind is put together and is one of
these. -/
lemma finish_sendsNothing {options : EngineOptions} (hsql : options.sqlPrompt = none)
    (hanswer : options.synthesisPrompt = none) (db : Database σ) (transport : Http.Transport σ)
    (kind : EngineKind σ) :
    ∃ engine, options.finish db (.ofSettings .offline transport) kind = .ok engine
      ∧ engine.SendsNothing db (kind.provider options.notes)
      ∧ engine.synthesize = options.synthesize ∧ engine.responseMode = options.responseMode := by
  have hphrases : options.answerPrompt.PhrasesAnswers := by
    rw [answerPrompt_of_none hanswer]
    exact Prompt.sqlSynthesisV2_phrasesAnswers
  have hprompt : options.sqlPrompt.getD .textToSql = .textToSql := by rw [hsql, Option.getD_none]
  have hassembled := assembled_sendsNothing (.inl hprompt) hanswer db transport
  cases kind with
  | nlSql tables => exact ⟨_, build_of_phrasesAnswers hphrases .., hassembled _ _, rfl, rfl⟩
  | overRetriever retriever heading =>
      exact ⟨_, build_of_phrasesAnswers hphrases .., hassembled _ _, rfl, rfl⟩
  | custom provider reader =>
      exact ⟨_, build_of_phrasesAnswers hphrases .., hassembled _ _, rfl, rfl⟩
  | pgvector tables =>
      let options' : EngineOptions :=
        { options with sqlPrompt := some (options.sqlPrompt.getD .textToSqlVector) }
      have hprompt' : options'.sqlPrompt.getD .textToSql = .textToSqlVector := by
        rw [Option.getD_some, hsql, Option.getD_none]
      have hassembled' := assembled_sendsNothing (.inr hprompt') hanswer db transport
      exact ⟨_, options'.build_of_phrasesAnswers hphrases .., hassembled' _ _, rfl, rfl⟩

/-- **Offline, every question is answered.** Take an engine of any kind with the usual prompts under
the settings that send nothing. Whatever the question, the description of the tables and the dialect
are, if the tables are described and the database runs `SELECT 1`, there is an answer: its words are
made up if the results are phrased and else are the result, the result is its source, and it knows
what the database told with the statement. No other statement is run. -/
theorem finish_answersOffline (options : EngineOptions) (hsql : options.sqlPrompt = none)
    (hanswer : options.synthesisPrompt = none) (db : Database σ) (transport : Http.Transport σ)
    (kind : EngineKind σ) :
    ∃ engine, options.finish db (.ofSettings .offline transport) kind = .ok engine
      ∧ ∀ (mode : CallMode) (question : Question) (state described last : σ) (tables raw : String)
          (metadata : Metadata),
        (kind.provider options.notes).context mode db question state = (.ok tables, described) →
        db.run "SELECT 1" described = (.ok ⟨raw, metadata⟩, last) →
          engine.ask mode question state
              = (.ok (.offline options.synthesize options.responseMode raw
                  (metadata.insert sqlQueryKey (.text "SELECT 1"))), last)
            ∧ ∀ source : TableSource σ, source.provider = kind.provider options.notes →
              ∃ result, executions ((engine.watched source).ask mode question (state, [])).2.2
                = [⟨.execution "SELECT 1", .ok result⟩] := by
  obtain ⟨engine, hfinish, hengine, hsynthesize, hmode⟩ :=
    finish_sendsNothing hsql hanswer db transport kind
  refine ⟨engine, hfinish, fun mode question state described last tables raw metadata hcontext
    hrun => ?_⟩
  have hask := TableEngine.ask_of_sendsNothing hengine hcontext hrun
  rw [hsynthesize, hmode] at hask
  have hrecords : Answer.Records (.offline options.synthesize options.responseMode raw
      (metadata.insert sqlQueryKey (.text "SELECT 1"))) "SELECT 1" ⟨raw, metadata⟩ :=
    Answer.records_of_metadata (Answer.offline_metadata ..)
  exact ⟨hask, fun source hprovider =>
    TableEngine.executions_of_ask (hprovider.trans hengine.provider.symm)
      (congrArg Prod.fst hask) hrecords.sqlQuery⟩

/-! ### A database that makes it hard -/

/-- A database whose dialect, structures and results hold braces, labels and blanks. It knows one
statement. -/
def teasingDatabase : Database Nat where
  dialect := "\x7bschema\x7d\nResponse: "
  usableTables := .done ["SQLResult:"]
  describe table := .done (table ++ " \x7bquery_str\x7d\nResponse: \n\n")
  run sql := fun asked =>
    (if sql = "SELECT 1" then .ok ⟨"[(1,)]\nSQLQuery: ", .empty⟩
      else .error (.database .notADatabase), asked + 1)

/-- A question of the same kind. -/
def teasingQuestion : Question := { text := "\x7bdialect\x7d [query_vector]\nResponse: " }

/-- What is known after the statement has run. -/
def teasingMetadata : Metadata := .insert .empty sqlQueryKey (.text "SELECT 1")

/-- The question is answered all the same, with words and without. -/
theorem teasingDatabase_answersOffline :
    (ContextProvider.chosen none .empty).context .async teasingDatabase teasingQuestion 0
        = (.ok "SQLResult: \x7bquery_str\x7d\nResponse: \n\n", 0)
      ∧ teasingDatabase.run "SELECT 1" 0 = (.ok ⟨"[(1,)]\nSQLQuery: ", .empty⟩, 1)
      ∧ (∃ engine, ({} : EngineOptions).finish teasingDatabase
          (.ofSettings .offline (.unreachable "nobody")) (.pgvector none) = .ok engine
        ∧ engine.ask .async teasingQuestion 0
          = (.ok ⟨some "Dummy response", [{ text := "[(1,)]\nSQLQuery: " }], teasingMetadata⟩, 1)
        ∧ ∃ result, executions
            ((engine.watched (.all .empty)).ask .async teasingQuestion (0, [])).2.2
          = [⟨.execution "SELECT 1", .ok result⟩])
      ∧ ∃ engine, ({ synthesize := false } : EngineOptions).finish teasingDatabase
          (.ofSettings .offline (.unreachable "nobody")) (.nlSql none) = .ok engine
        ∧ engine.ask .async teasingQuestion 0
          = (.ok (.ofText "[(1,)]\nSQLQuery: " teasingMetadata), 1) := by
  obtain ⟨engine, hengine, hasked⟩ := finish_answersOffline {} rfl rfl teasingDatabase
    (.unreachable "nobody") (.pgvector none)
  obtain ⟨other, hother, hasked'⟩ := finish_answersOffline { synthesize := false } rfl rfl
    teasingDatabase (.unreachable "nobody") (.nlSql none)
  obtain ⟨hanswer, hexecutions⟩ := hasked .async teasingQuestion 0 0 1 _ _ _ rfl rfl
  obtain ⟨hanswer', -⟩ := hasked' .async teasingQuestion 0 0 1 _ _ _ rfl rfl
  exact ⟨rfl, rfl, ⟨engine, hengine, hanswer, hexecutions (.all .empty) rfl⟩, other, hother,
    hanswer'⟩

end EngineOptions

end AskSql
