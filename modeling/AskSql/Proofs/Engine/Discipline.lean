import AskSql.Proofs.Engine.Stages

/-!
The discipline of the stages.

A complete run has its stages in one order, and a run that fails stops at the call that failed. The
failure of that call is told, and how depends on one thing only: whether a statement has run before,
since only the synthesis tells a failure of the model in its own way.

* `executions`, `Quiet`: the calls that run a statement, and steps that run none.
* `Plain`: steps that run none and whose failures are told as they are; the stages up to the
  statement consist of them.
* `TableEngine.telling`, `NarrativeEngine.telling`: how an engine tells a failure, by the calls
  before it.
* `Disciplined`, `ask_disciplined`: what the order of the stages means for the calls, the result and
  the failure.
-/

namespace AskSql

variable {σ : Type}

/-! ### Steps that run no statement -/

/-- The calls that run a statement. -/
def executions (calls : List Call) : List Call := calls.filter fun call => call.request.isExecution

/-- Steps that run no statement. -/
def Quiet (steps : List Step) : Prop := ∀ step ∈ steps, step.request.isExecution = false

namespace Quiet

@[simp] lemma nil : Quiet [] := List.forall_mem_nil _

@[simp] lemma cons_iff {step : Step} {steps : List Step} :
    Quiet (step :: steps) ↔ step.request.isExecution = false ∧ Quiet steps :=
  List.forall_mem_cons

@[simp] lemma append_iff {before after : List Step} :
    Quiet (before ++ after) ↔ Quiet before ∧ Quiet after :=
  List.forall_mem_append

/-- Quiet steps leave no execution in the record. -/
lemma executions_eq {steps : List Step} (h : Quiet steps) :
    executions (steps.map Step.call) = [] := by
  rw [executions, List.filter_eq_nil_iff]
  intro call hcall
  obtain ⟨step, hstep, rfl⟩ := List.mem_map.mp hcall
  rw [Step.call_request, h step hstep]
  exact Bool.false_ne_true

/-- Between quiet steps, one execution is the only one. -/
lemma executions_around {before after : List Step} (hbefore : Quiet before) (hafter : Quiet after)
    (sql : String) (raw : Execution) :
    executions ((before ++ ⟨.execution sql, raw, id⟩ :: after).map Step.call)
      = [⟨.execution sql, .ok raw⟩] := by
  have hsplit : executions ((before ++ ⟨.execution sql, raw, id⟩ :: after).map Step.call)
      = executions (before.map Step.call)
        ++ ⟨.execution sql, .ok raw⟩ :: executions (after.map Step.call) := by
    rw [executions, List.map_append, List.filter_append]
    rfl
  rw [hsplit, hbefore.executions_eq, hafter.executions_eq, List.nil_append]

end Quiet

/-- Steps that run no statement and whose failures are told as they are. -/
def Plain (steps : List Step) : Prop :=
  ∀ step ∈ steps, step.request.isExecution = false ∧ step.told = id

namespace Plain

@[simp] lemma nil : Plain [] := List.forall_mem_nil _

@[simp] lemma cons_iff {step : Step} {steps : List Step} :
    Plain (step :: steps) ↔ (step.request.isExecution = false ∧ step.told = id) ∧ Plain steps :=
  List.forall_mem_cons

@[simp] lemma append_iff {before after : List Step} :
    Plain (before ++ after) ↔ Plain before ∧ Plain after :=
  List.forall_mem_append

lemma quiet {steps : List Step} (h : Plain steps) : Quiet steps := fun step hstep =>
  (h step hstep).1

end Plain

/-- In turn, plain orders are plain. -/
lemma Order.InTurn.isPlain {α β : Type} {order : α → Order β}
    (h : ∀ x steps y, order x steps y → Plain steps) {xs : List α} {steps : List Step} {ys : List β}
    (hall : InTurn order xs steps ys) : Plain steps := by
  induction hall with
  | nil => exact .nil
  | cons hfirst _ ih => exact Plain.append_iff.mpr ⟨h _ _ _ hfirst, ih⟩

/-! ### The stages that run no statement -/

lemma TableDescribed.isPlain (table : String × Option String) (steps : List Step) (block : String)
    (h : TableDescribed table steps block) : Plain steps := by
  cases h with
  | intro structureText => simp [Request.isExecution]

lemma TableSource.Described.isPlain {source : TableSource σ} {mode : CallMode} {question : Question}
    {steps : List Step} {text : String} (h : source.Described mode question steps text) :
    Plain steps := by
  cases h with
  | selected h => exact Order.InTurn.isPlain TableDescribed.isPlain h
  | all names h =>
      exact Plain.cons_iff.mpr ⟨⟨rfl, rfl⟩, Order.InTurn.isPlain TableDescribed.isPlain h⟩
  | retrieved tables h =>
      exact Plain.cons_iff.mpr ⟨⟨rfl, rfl⟩, Order.InTurn.isPlain TableDescribed.isPlain h⟩
  | other text => simp [Request.isExecution]

lemma StatementReader.Filled.isPlain {reader : StatementReader σ} {mode : CallMode}
    {question : Question} {extracted sql : String} {steps : List Step}
    (h : reader.Filled mode question extracted steps sql) : Plain steps := by
  cases h <;> simp [Request.isExecution]

lemma LanguageModel.Synthesized.quiet {responseMode : ResponseMode} {prompt : Prompt}
    {mode : CallMode} {question : String} {sources : List SourceNode} {steps : List Step}
    {answer : Answer} (h : Synthesized responseMode prompt mode question sources steps answer) :
    Quiet steps := by
  cases h <;> simp [Request.isExecution]

lemma TableEngine.Phrased.quiet {engine : TableEngine σ} {mode : CallMode} {question : Question}
    {sql : String} {result : Execution} {steps : List Step} {answer : Answer}
    (h : engine.Phrased mode question sql result steps answer) : Quiet steps := by
  cases h with
  | raw h => exact .nil
  | synthesized h hanswer => exact hanswer.quiet

lemma NarrativeEngine.Phrased.isPlain {engine : NarrativeEngine σ} {mode : CallMode}
    {question : Question} {sql : String} {result : Execution} {steps : List Step} {words : String}
    (h : engine.Phrased mode question sql result steps words) : Plain steps := by
  cases h <;> simp [Request.isExecution]

/-! ### How a failure is told -/

namespace TableEngine

/-- How the engine over tables tells the failure of a call, by the calls before it: as it is until a
statement has run, and in the way of a synthesis from then on. -/
def telling (before : List Call) (failure : Failure) : Failure :=
  if executions before = [] then failure else toldInSynthesis failure

lemma telling_of_quiet {before : List Step} (h : Quiet before) :
    telling (before.map Step.call) = id := by
  funext failure
  rw [telling, if_pos h.executions_eq]
  rfl

lemma telling_of_executed {before after : List Step} (hbefore : Quiet before) (hafter : Quiet after)
    (sql : String) (raw : Execution) :
    telling ((before ++ ⟨.execution sql, raw, id⟩ :: after).map Step.call) = toldInSynthesis := by
  funext failure
  rw [telling, hbefore.executions_around hafter, if_neg (List.cons_ne_nil _ _)]

/-- After the statement, failures are told in the way of a synthesis. -/
lemma Phrased.told {engine : TableEngine σ} {mode : CallMode} {question : Question} {sql : String}
    {result : Execution} {steps : List Step} {answer : Answer}
    (h : engine.Phrased mode question sql result steps answer) :
    ∀ step ∈ steps, step.told = toldInSynthesis := by
  cases h with
  | raw h => exact List.forall_mem_nil _
  | synthesized h hanswer => cases hanswer <;> simp

/-- In a complete run, how the failure of a call would be told is decided by the calls before it. -/
lemma Answered.told {engine : TableEngine σ} {source : TableSource σ} {mode : CallMode}
    {question : Question} {before after : List Step} {step : Step} {answer : Answer}
    (h : engine.Answered source mode question (before ++ step :: after) answer) :
    step.told = telling (before.map Step.call) := by
  generalize hsteps : before ++ step :: after = steps at h
  cases h with
  | @intro context filling phrasing tables sql answer hcontext completion hfilling raw hphrasing =>
      rw [← List.cons_append, ← List.append_assoc] at hsteps
      have hplain : Plain (context
          ++ ⟨.completion mode engine.sqlPrompt [("query_str", question.text), ("schema", tables),
              ("dialect", engine.database.dialect)], completion, id⟩ :: filling) :=
        Plain.append_iff.mpr ⟨hcontext.isPlain, Plain.cons_iff.mpr ⟨⟨rfl, rfl⟩, hfilling.isPlain⟩⟩
      generalize context ++ _ = first at hsteps hplain
      -- the call is the statement or stands before it, or it is one of the synthesis
      rcases List.append_eq_append_iff.mp hsteps with ⟨rest, rfl, hrest⟩ | ⟨late, rfl, hlate⟩
      · obtain ⟨hbefore, hafter⟩ := Plain.append_iff.mp hplain
        rw [telling_of_quiet hbefore.quiet]
        cases rest with
        | nil => rw [(List.cons.inj hrest).1]
        | cons first rest =>
            rw [(List.cons.inj hrest).1]
            exact (hafter first (List.mem_cons_self ..)).2
      · cases late with
        | nil =>
            rw [List.append_nil, telling_of_quiet hplain.quiet, ← (List.cons.inj hlate).1]
        | cons executed late =>
            obtain ⟨rfl, rfl⟩ := List.cons.inj hlate
            have hquiet := (Quiet.append_iff.mp hphrasing.quiet).1
            rw [telling_of_executed hplain.quiet hquiet]
            exact hphrasing.told step (List.mem_append_right _ (List.mem_cons_self ..))

end TableEngine

/-- The engine over a prepared description tells every failure as it is. -/
def NarrativeEngine.telling (_before : List Call) (failure : Failure) : Failure := failure

/-- In a complete run, every failure of a call would be told as it is. -/
lemma NarrativeEngine.Answered.told {engine : NarrativeEngine σ} {tables : String} {mode : CallMode}
    {question : Question} {before after : List Step} {step : Step} {answer : Answer}
    (h : engine.Answered tables mode question (before ++ step :: after) answer) :
    step.told = telling (before.map Step.call) := by
  generalize hsteps : before ++ step :: after = steps at h
  have htold : ∀ made ∈ steps, made.told = id := by
    cases h with
    | intro completion raw hphrasing =>
        intro made hmade
        rcases List.mem_cons.mp hmade with rfl | hmade
        · rfl
        · rcases List.mem_cons.mp hmade with rfl | hmade
          · rfl
          · exact (hphrasing.isPlain made hmade).2
  exact htold step (hsteps ▸ List.mem_append_right _ (List.mem_cons_self ..))

/-! ### The discipline -/

/-- What a session and its record show when an order is kept and failures are told in some way. -/
structure Disciplined {α : Type} (order : Order α) (telling : List Call → Failure → Failure)
    (plain : Except Failure α × σ) (seen : Except Failure α × Watched σ) : Prop where
  /-- Being watched changes neither the result nor the state of the collaborators. -/
  same : seen.1 = plain.1 ∧ seen.2.1 = plain.2
  /-- What is asked for is the beginning of a complete order. -/
  begins : ∃ steps x, order steps x ∧ seen.2.2.map Call.request <+: steps.map Step.request
  /-- There is a result just if every call was answered and the order went to its end. -/
  ok_iff : (∃ x, seen.1 = .ok x) ↔
    (∀ call ∈ seen.2.2, call.succeeded = true)
      ∧ ∃ steps x, order steps x ∧ seen.2.2 = steps.map Step.call
  /-- The result is the one of the order. -/
  of_ok : ∀ x, seen.1 = .ok x → ∃ steps, order steps x ∧ seen.2.2 = steps.map Step.call
  /-- Else the last call failed, all before it were answered, and its failure is told. -/
  of_error : ∀ failure, seen.1 = .error failure → ∃ before step after x cause,
    order (before ++ step :: after) x
      ∧ seen.2.2 = before.map Step.call ++ [step.failing cause]
      ∧ failure = telling (before.map Step.call) cause

lemma Session.Keeps.disciplined {α : Type} {watched : Session (Watched σ) α} {session : Session σ α}
    {order : Order α} {telling : List Call → Failure → Failure} (h : watched.Keeps session order)
    (htold : ∀ {before step after x}, order (before ++ step :: after) x →
      step.told = telling (before.map Step.call)) (state : σ) :
    Disciplined order telling (session state) (watched (state, [])) := by
  obtain ⟨made, heq, hkept⟩ := h state []
  rw [heq, List.nil_append]
  exact {
    same := ⟨rfl, rfl⟩
    begins := hkept.requests_isPrefix
    ok_iff := hkept.ok_iff
    of_ok := fun x hx => (hx ▸ hkept : order.Kept made (.ok x)).of_ok
    of_error := fun failure hf => by
      obtain ⟨before, step, after, x, cause, horder, hmade, hfailure⟩ :=
        (hf ▸ hkept : order.Kept made (.error failure)).of_error
      rw [htold horder] at hfailure
      exact ⟨before, step, after, x, cause, horder, hmade, hfailure⟩ }

lemma TableEngine.ask_keepsDiscipline (engine : TableEngine σ) (source : TableSource σ)
    (mode : CallMode) (question : Question) (state : σ) :
    Disciplined (engine.Answered source mode question) telling
      ((engine.over source).ask mode question state)
      ((engine.watched source).ask mode question (state, [])) :=
  (engine.ask_keeps source mode question).disciplined Answered.told state

lemma NarrativeEngine.ask_keepsDiscipline (engine : NarrativeEngine σ) (mode : CallMode)
    (question : Question) {tables : String} (h : engine.container.tableContext = .ok tables)
    (state : σ) :
    Disciplined (engine.Answered tables mode question) telling
      (engine.ask mode question state) (engine.watched.ask mode question (state, [])) :=
  (engine.ask_keeps mode question h).disciplined Answered.told state

/-- **The discipline of the stages.** Whatever the collaborators do, an engine makes the calls of a
complete run, in its order, up to the end or to the first call that fails. There is an answer just
if every call was answered and the run is complete; otherwise nothing follows the call that failed,
and its failure is told as it is, except that the engine over tables tells a failure of the model
after the statement has run, and so in the synthesis, as one of the synthesis: with the same fault,
and hence in the same words under another name. An engine over a prepared description that has none
fails before any call. -/
theorem ask_disciplined {σ : Type} (mode : CallMode) (question : Question) (state : σ) :
    (∀ (engine : TableEngine σ) (source : TableSource σ),
      Disciplined (engine.Answered source mode question) TableEngine.telling
        ((engine.over source).ask mode question state)
        ((engine.watched source).ask mode question (state, [])))
    ∧ (∀ engine : NarrativeEngine σ,
      match engine.container.tableContext with
      | .ok tables => Disciplined (engine.Answered tables mode question) NarrativeEngine.telling
          (engine.ask mode question state) (engine.watched.ask mode question (state, []))
      | .error failure => engine.ask mode question state = (.error failure, state)
          ∧ engine.watched.ask mode question (state, []) = (.error failure, state, []))
    ∧ ∀ fault, (Failure.llm fault).message = "LLM error: " ++ fault.text
        ∧ (Failure.synthesis fault).message = "Synthesis error: " ++ fault.text := by
  refine ⟨fun engine source => engine.ask_keepsDiscipline source mode question state,
    fun engine => ?_, fun fault => ⟨rfl, rfl⟩⟩
  split
  · next tables h => exact engine.ask_keepsDiscipline mode question h state
  · next failure h =>
      exact ⟨engine.ask_of_tableContext_error mode question h state,
        engine.watched.ask_of_tableContext_error mode question h (state, [])⟩

end AskSql
