import AskSql.Proofs.Calls.Alike
import AskSql.Proofs.Engine.Execution
import AskSql.Proofs.Engine.Stages

/-!
What synthesis adds to a run.

An engine that phrases its results and the same engine that gives them back as they are go through
the same stages up to the result of the statement. Two runs from the same state are compared here
with their records: what the second one does beyond the first is at most one call of the model, and
what it changes in the answer is at most the words.

* `TableEngine.withSynthesis`: the engine with its synthesis turned on or off.
* `TableEngine.ask_eq_watched`, `TableEngine.watched_respond_compact`: the run of an engine under
  watch, and what the phrasing of a result adds to its record.
* `OnlyRewords`, `ask_onlyRewords`: a run with synthesis beside the one without.
-/

namespace AskSql

variable {σ : Type}

/-- The engine with its synthesis turned on or off. -/
def TableEngine.withSynthesis (engine : TableEngine σ) (synthesize : Bool) : TableEngine σ :=
  { engine with synthesize := synthesize }

namespace TableEngine

variable {engine : TableEngine σ} {mode : CallMode} {question : Question} {state reached : σ}

/-! ### Under watch -/

/-- An engine under watch ends like the engine itself, in the same state of the collaborators. -/
lemma ask_eq_watched (engine : TableEngine σ) (source : TableSource σ) (mode : CallMode)
    (question : Question) (state : σ) :
    (engine.over source).ask mode question state
      = (((engine.watched source).ask mode question (state, [])).1,
          ((engine.watched source).ask mode question (state, [])).2.1) := by
  obtain ⟨made, heq, -⟩ := engine.ask_keeps source mode question state []
  rw [heq]

/-- The call of the model that phrases a result. -/
def synthesisCall (engine : TableEngine σ) (mode : CallMode) (question : Question)
    (sql raw : String) (outcome : Except Failure String) : Call :=
  ⟨.completion mode (engine.synthesisPrompt.bind [("sql_query", sql)])
    [("query_str", question.text), ("context_str", raw)], outcome⟩

/-- What the outcome of that call makes of a result: an answer in its words, or a failure, which is
one of the synthesis, with the same fault, if it is one of the model, and else stays what it is. -/
def phrasing (raw : String) (metadata : Metadata) : Except Failure String → Except Failure Answer
  | .ok words => .ok (.phrased words raw metadata)
  | .error (.llm fault) => .error (.synthesis fault)
  | .error failure => .error failure

/-- An answer has the words of the model. -/
lemma exists_words_of_phrasing {raw : String} {metadata : Metadata}
    {outcome : Except Failure String} {answer : Answer}
    (h : phrasing raw metadata outcome = .ok answer) :
    ∃ words, outcome = .ok words ∧ answer = .phrased words raw metadata := by
  cases outcome with
  | error failure => cases failure <;> cases h
  | ok words => exact ⟨words, rfl, (Except.ok.inj h).symm⟩

/-- Under watch, a result that a model is to phrase adds one call to the record. -/
lemma watched_respond_compact (h : engine.synthesize = true)
    (hmode : engine.responseMode = .compact) (source : TableSource σ) {mode : CallMode}
    {question : Question} {sql : String} {result : Execution} {state : Watched σ}
    {outcome : Except Failure String} {last : σ}
    (hrun : engine.llm.predict mode (engine.synthesisPrompt.bind [("sql_query", sql)])
      [("query_str", question.text), ("context_str", result.text)] state.1 = (outcome, last)) :
    (engine.watched source).respond mode question sql result state
      = (phrasing result.text result.metadata outcome, last,
          state.2 ++ [engine.synthesisCall mode question sql result.text outcome]) := by
  have hwatched : (engine.watched source).synthesize = true
      ∧ (engine.watched source).responseMode = .compact := ⟨h, hmode⟩
  rw [respond_compact hwatched.1 hwatched.2]
  have hcall := (Session.watched_recorded (.completion mode
    (engine.synthesisPrompt.bind [("sql_query", sql)])
    [("query_str", question.text), ("context_str", result.text)]) _).apply_of hrun
  have hmapped := (Session.mapFailure_apply Failure.inSynthesis _ state).trans
    (congrArg (fun run => (run.1.mapError Failure.inSynthesis, run.2)) hcall)
  cases outcome with
  | error failure => cases failure <;> exact Session.andThen_of_error hmapped
  | ok words => exact Session.andThen_of_ok hmapped

end TableEngine

/-! ### Two runs -/

/-- A run with synthesis beside the one without it, from the same state and with their records. -/
structure OnlyRewords (engine : TableEngine σ) (mode : CallMode) (question : Question)
    (off on : Except Failure Answer × Watched σ) : Prop where
  /-- A failure without synthesis is the failure with it, after the same calls. -/
  failed : ∀ failure, off.1 = .error failure → on = off
  /-- Without words the calls are the same and the result becomes the source of the answer. -/
  noText : engine.responseMode = .noText → ∀ answer, off.1 = .ok answer → ∃ raw,
    answer = .ofText raw answer.metadata ∧ on = (.ok (.unphrased raw answer.metadata), off.2)
  /-- Else there is exactly one more call, of the model, and its outcome decides the answer. -/
  compact : engine.responseMode = .compact → ∀ answer, off.1 = .ok answer → ∃ raw sql outcome,
    answer = .ofText raw answer.metadata ∧ answer.sqlQuery = some sql
      ∧ on.2.2 = off.2.2 ++ [engine.synthesisCall mode question sql raw outcome]
      ∧ on.1 = TableEngine.phrasing raw answer.metadata outcome
  /-- Two answers know the same, and the one with synthesis rests on the words of the other one. -/
  answered : ∀ plain worded, off.1 = .ok plain → on.1 = .ok worded →
    worded.metadata = plain.metadata ∧ plain.sources = []
      ∧ ∃ raw, plain.text = some raw ∧ worded.sources = [{ text := raw }]

namespace OnlyRewords

variable {engine : TableEngine σ} {mode : CallMode} {question : Question}

/-- Two runs that failed alike. -/
lemma of_failure (failure : Failure) (reached : Watched σ) :
    OnlyRewords engine mode question (.error failure, reached) (.error failure, reached) where
  failed _ _ := rfl
  noText _ _ h := by cases h
  compact _ _ h := by cases h
  answered _ _ h := by cases h

/-- A result on its own beside the same result as a source. -/
lemma of_noText (hmode : engine.responseMode = .noText) (raw : String) (metadata : Metadata)
    (reached : Watched σ) :
    OnlyRewords engine mode question (.ok (.ofText raw metadata), reached)
      (.ok (.unphrased raw metadata), reached) where
  failed _ h := by cases h
  noText _ answer h := by
    obtain rfl := Except.ok.inj h
    exact ⟨raw, rfl, rfl⟩
  compact h := by
    rw [hmode] at h
    cases h
  answered plain worded hplain hworded := by
    obtain rfl := Except.ok.inj hplain
    obtain rfl := Except.ok.inj hworded
    exact ⟨rfl, rfl, raw, rfl, rfl⟩

/-- A result on its own beside what a model makes of it. -/
lemma of_compact (hmode : engine.responseMode = .compact) {sql raw : String} {metadata : Metadata}
    (hsql : (Answer.ofText raw metadata).sqlQuery = some sql) (outcome : Except Failure String)
    (state last : σ) (calls : List Call) :
    OnlyRewords engine mode question (.ok (.ofText raw metadata), state, calls)
      (TableEngine.phrasing raw metadata outcome, last,
        calls ++ [engine.synthesisCall mode question sql raw outcome]) where
  failed _ h := by cases h
  noText h := by
    rw [hmode] at h
    cases h
  compact _ answer h := by
    obtain rfl := Except.ok.inj h
    exact ⟨raw, sql, outcome, rfl, hsql, rfl, rfl⟩
  answered plain worded hplain hworded := by
    obtain rfl := Except.ok.inj hplain
    obtain ⟨words, -, rfl⟩ := TableEngine.exists_words_of_phrasing hworded
    exact ⟨rfl, rfl, raw, rfl, rfl⟩

end OnlyRewords

/-- **Synthesis changes only the wording.** Ask an engine the same question from the same state,
without synthesis and with it. If the first run fails, the second one is the same. Otherwise the
second one makes the same calls and then, if a model is to phrase the result, one call of the model
and no other. Whenever it answers, the answer knows what the first one knows and has the words of
the first one as its only source, and its own words are those of the model, trimmed, or none; and
without words it always answers. -/
theorem ask_onlyRewords {σ : Type} (engine : TableEngine σ) (source : TableSource σ)
    (mode : CallMode) (question : Question) (state : σ) :
    OnlyRewords engine mode question
      (((engine.withSynthesis false).watched source).ask mode question (state, []))
      (((engine.withSynthesis true).watched source).ask mode question (state, []))
    ∧ ∀ synthesize, ((engine.withSynthesis synthesize).over source).ask mode question state
      = ((((engine.withSynthesis synthesize).watched source).ask mode question (state, [])).1,
          (((engine.withSynthesis synthesize).watched source).ask mode question
            (state, [])).2.1) := by
  refine ⟨?_, fun synthesize =>
    (engine.withSynthesis synthesize).ask_eq_watched source mode question state⟩
  rcases hexecute : (engine.watched source).execute mode question (state, [])
    with ⟨failure | ⟨sql, result⟩, reached⟩
  · have hask : ∀ synthesize, ((engine.withSynthesis synthesize).watched source).ask mode question
        (state, []) = (.error failure, reached) :=
      fun synthesize => TableEngine.ask_of_failure hexecute
    rw [hask, hask]
    exact .of_failure failure reached
  · have hask : ∀ synthesize, ((engine.withSynthesis synthesize).watched source).ask mode question
        (state, []) = ((engine.withSynthesis synthesize).watched source).respond mode question sql
          result reached :=
      fun synthesize => TableEngine.ask_of_result hexecute
    have hoff : ((engine.withSynthesis false).watched source).respond mode question sql result
        = pure (.ofText result.text result.metadata) := TableEngine.respond_raw rfl _ _ _ _
    rw [hask, hask, hoff]
    cases hmode : engine.responseMode with
    | noText =>
        have hwatched : ((engine.withSynthesis true).watched source).responseMode = .noText := hmode
        rw [TableEngine.respond_noText rfl hwatched]
        exact .of_noText hmode result.text result.metadata reached
    | compact =>
        have hplain : (engine.withSynthesis true).responseMode = .compact := hmode
        rcases hrun : engine.llm.predict mode (engine.synthesisPrompt.bind [("sql_query", sql)])
          [("query_str", question.text), ("context_str", result.text)] reached.1
          with ⟨outcome, last⟩
        rw [TableEngine.watched_respond_compact rfl hplain source hrun]
        exact .of_compact hmode (TableEngine.execute_sqlQuery hexecute) outcome reached.1 last
          reached.2

end AskSql
