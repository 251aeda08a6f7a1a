import AskSql.Proofs.Calls.Alike
import AskSql.Proofs.Engine.Execution
import AskSql.Proofs.Engine.Stages

/-!
What reaches the model and the database.

Of all calls in a record, those that matter outside are the ones in which the text of a prompt goes
to the model or a statement goes to the database. How the tables were described leaves no trace
among them.

* `Exchange`, `exchanges`, `resultIn`: what reaches the model and the database in some calls, and
  what a statement in them yielded.
* `TableSource.Described.exchanges_eq_nil`, `TableEngine.watched_tableContext`: describing the
  tables is not one of them.
* `Database.watched_runRecorded`, `NarrativeEngine.watched_executeFrom`: what the first part of a
  question adds to a record, and the result that can be read off there.
-/

namespace AskSql

variable {σ : Type}

/-! ### Exchanges -/

/-- What passes between an engine and the model or the database. -/
inductive Exchange where
  /-- The text of a prompt reaches the model. -/
  | text (mode : CallMode) (rendered : Except Failure String)
  /-- A statement reaches the database and has an outcome. -/
  | statement (sql : String) (outcome : Except Failure Execution)

/-- What the statement yielded. -/
def Exchange.result? : Exchange → Option Execution
  | .statement _ (.ok result) => some result
  | _ => none

/-- What passes in a call. -/
def Call.exchange? : Call → Option Exchange
  | ⟨.completion mode prompt bindings, _⟩ => some (.text mode (prompt.render bindings))
  | ⟨.execution sql, outcome⟩ => some (.statement sql outcome)
  | _ => none

/-- What passes in some calls, in order. -/
def exchanges (calls : List Call) : List Exchange := calls.filterMap Call.exchange?

/-- What a statement yielded, if one did. -/
def resultIn (calls : List Call) : Option Execution :=
  (exchanges calls).findSome? Exchange.result?

lemma exchanges_append (calls more : List Call) :
    exchanges (calls ++ more) = exchanges calls ++ exchanges more := List.filterMap_append

/-- A call of the model yields no result of a statement. -/
lemma resultIn_append_completion (calls : List Call) (mode : CallMode) (prompt : Prompt)
    (bindings : Bindings) (outcome : Except Failure String) :
    resultIn (calls ++ [⟨.completion mode prompt bindings, outcome⟩]) = resultIn calls := by
  have hcall : exchanges [⟨.completion mode prompt bindings, outcome⟩]
      = [.text mode (prompt.render bindings)] := rfl
  rw [resultIn, resultIn, exchanges_append, hcall, List.findSome?_append]
  exact Option.or_none

/-! ### The description of the tables -/

/-- In turn, orders in which nothing passes. -/
lemma Order.InTurn.exchanges_eq_nil {α β : Type} {order : α → Order β}
    (h : ∀ x steps y, order x steps y → exchanges (steps.map Step.call) = []) {xs : List α}
    {steps : List Step} {ys : List β} (hall : InTurn order xs steps ys) :
    exchanges (steps.map Step.call) = [] := by
  induction hall with
  | nil => rfl
  | cons hfirst _ ih => rw [List.map_append, exchanges_append, h _ _ _ hfirst, ih, List.append_nil]

lemma TableDescribed.exchanges_eq_nil (table : String × Option String) (steps : List Step)
    (block : String) (h : TableDescribed table steps block) :
    exchanges (steps.map Step.call) = [] := by
  cases h with
  | intro structureText => rfl

/-- The calls that describe the tables go neither to the model nor to a statement. -/
lemma TableSource.Described.exchanges_eq_nil {source : TableSource σ} {mode : CallMode}
    {question : Question} {steps : List Step} {text : String}
    (h : source.Described mode question steps text) : exchanges (steps.map Step.call) = [] := by
  -- finding out the tables is no exchange either, so that what is left are the single tables
  cases h with
  | selected h => exact Order.InTurn.exchanges_eq_nil TableDescribed.exchanges_eq_nil h
  | @all _ _ steps _ h =>
      show exchanges (steps.map Step.call) = []
      exact Order.InTurn.exchanges_eq_nil TableDescribed.exchanges_eq_nil h
  | @retrieved _ _ _ steps _ h =>
      show exchanges (steps.map Step.call) = []
      exact Order.InTurn.exchanges_eq_nil TableDescribed.exchanges_eq_nil h
  | other text => rfl

/-- Under watch, a description adds calls in which nothing passes. -/
lemma TableEngine.watched_tableContext (engine : TableEngine σ) (source : TableSource σ)
    {mode : CallMode} {question : Question} {state described : σ} {tables : String}
    (h : source.provider.context mode engine.database question state = (.ok tables, described)) :
    ∃ before, exchanges before = []
      ∧ (engine.watched source).tableContext mode question (state, [])
        = (.ok tables, described, before) := by
  obtain ⟨made, heq, hkept⟩ := source.context_keeps engine.database mode question state []
  rw [h] at heq hkept
  obtain ⟨steps, hsteps, rfl⟩ := hkept.of_ok
  refine ⟨steps.map Step.call, hsteps.exchanges_eq_nil, ?_⟩
  rw [tableContext_eq]
  exact heq

/-! ### Up to the result -/

/-- A result with the statement behind it. -/
def Execution.recorded (sql : String) (raw : Execution) : Execution :=
  { raw with metadata := raw.metadata.insert sqlQueryKey (.text sql) }

/-- Under watch, a statement adds one call to the record. -/
lemma Database.watched_runRecorded (db : Database σ) {sql : String} {state reached : σ}
    {outcome : Except Failure Execution} (h : db.run sql state = (outcome, reached))
    (calls : List Call) :
    db.watched.runRecorded sql (state, calls)
      = (outcome.map (.recorded sql), reached, calls ++ [⟨.execution sql, outcome⟩]) := by
  have hcall : db.watched.run sql (state, calls)
      = (outcome, reached, calls ++ [⟨.execution sql, outcome⟩]) :=
    (Session.watched_recorded (.execution sql) _).apply_of h
  cases outcome with
  | error failure => exact Session.andThen_of_error hcall
  | ok raw => exact Session.andThen_of_ok hcall

namespace NarrativeEngine

/-- The call of the model that writes a statement. -/
def statementCall (engine : NarrativeEngine σ) (mode : CallMode) (question : Question)
    (tables : String) (outcome : Except Failure String) : Call :=
  ⟨.completion mode engine.sqlPrompt
    [("query_str", question.text), ("schema", tables), ("dialect", engine.database.dialect)],
    outcome⟩

/-- Under watch, the first part of a question adds its calls to whatever has been recorded, and it
ends in the result that they show. -/
lemma watched_executeFrom (engine : NarrativeEngine σ) (mode : CallMode) (question : Question)
    (tables : String) (state : σ) :
    ∃ run reached calls,
      (resultIn calls).map (·.text) = run.toOption.map (fun run => run.2.text)
      ∧ ∀ before, engine.watched.executeFrom mode question tables (state, before)
        = (run, reached, before ++ calls) := by
  rcases hpredict : engine.llm.predict mode engine.sqlPrompt [("query_str", question.text),
    ("schema", tables), ("dialect", engine.database.dialect)] state
    with ⟨failure | completion, asked⟩
  · refine ⟨.error failure, asked, [engine.statementCall mode question tables (.error failure)],
      rfl, fun before => ?_⟩
    exact Session.andThen_of_error ((Session.watched_recorded (.completion ..) _).apply_of hpredict)
  · have hasked : ∀ before, engine.watched.executeFrom mode question tables (state, before)
        = (engine.watched.database.runRecorded (Statement.beforeResult completion) >>= fun result =>
            pure (Statement.beforeResult completion, result))
          (asked, before ++ [engine.statementCall mode question tables (.ok completion)]) :=
      fun before =>
        Session.andThen_of_ok ((Session.watched_recorded (.completion ..) _).apply_of hpredict)
    rcases hrun : engine.database.run (Statement.beforeResult completion) asked
      with ⟨outcome, reached⟩
    have hran : ∀ before, engine.watched.database.runRecorded (Statement.beforeResult completion)
          (asked, before ++ [engine.statementCall mode question tables (.ok completion)])
        = (outcome.map (.recorded (Statement.beforeResult completion)), reached,
            before ++ [engine.statementCall mode question tables (.ok completion),
              ⟨.execution (Statement.beforeResult completion), outcome⟩]) := by
      intro before
      refine (engine.database.watched_runRecorded hrun _).trans ?_
      rw [List.append_assoc]
      rfl
    cases outcome with
    | error failure =>
        exact ⟨.error failure, reached, _, rfl, fun before =>
          (hasked before).trans (Session.andThen_of_error (hran before))⟩
    | ok raw =>
        exact ⟨.ok (Statement.beforeResult completion, _), reached, _, rfl, fun before =>
          (hasked before).trans (Session.andThen_of_ok (hran before))⟩

end NarrativeEngine

end AskSql
