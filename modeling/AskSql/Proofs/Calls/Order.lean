import AskSql.Proofs.Calls.Watched
import Mathlib.Tactic.Lemma

/-!
The order of calls.

An order says which sequences of answered calls lead to which result. A session keeps an order if
the calls that it makes are such a sequence, or the beginning of one up to a call that fails. So no
call is left out, none is added, none follows a failure, and the failure of the session is the one
of its last call.

* `Step`, `Order`: an answered call, and the complete sequences of such calls.
* `Order.Kept`: calls and a result that follow an order to its end or to the first failure.
* `Session.Keeps`: a session whose watched form makes calls that keep an order, and which otherwise
  behaves as if it were not watched.
* `Session.Keeps.bind`, `Session.Keeps.each`, `Session.Keeps.mapFailure`: how orders compose.
* `Order.Kept.ok_iff`: a result is reached just if every call was answered and the order is
  complete.
-/

namespace AskSql

variable {σ α β : Type}

/-! ### Orders -/

/-- A call that is answered, and how a failure of it would be told. -/
structure Step where
  request : Request
  reply : request.Reply
  told : Failure → Failure := id

namespace Step

/-- The call of a step. -/
def call (step : Step) : Call := ⟨step.request, .ok step.reply⟩

/-- The call of a step when it fails. -/
def failing (step : Step) (failure : Failure) : Call := ⟨step.request, .error failure⟩

@[simp] lemma call_request (step : Step) : step.call.request = step.request := rfl

@[simp] lemma failing_request (step : Step) (failure : Failure) :
    (step.failing failure).request = step.request := rfl

@[simp] lemma call_succeeded (step : Step) : step.call.succeeded = true := rfl

@[simp] lemma failing_succeeded (step : Step) (failure : Failure) :
    (step.failing failure).succeeded = false := rfl

end Step

/-- The complete sequences of steps, each with what it ends in. -/
abbrev Order (α : Type) : Type := List Step → α → Prop

namespace Order

/-- No call at all. -/
def value (x : α) : Order α := fun steps y => steps = [] ∧ y = x

/-- One call, whose answer is the result. -/
def single (request : Request) : Order request.Reply := fun steps reply =>
  steps = [⟨request, reply, id⟩]

/-- One order after another one, which may depend on what the first has ended in. -/
def andThen (first : Order α) (second : α → Order β) : Order β := fun steps y =>
  ∃ before x after, first before x ∧ second x after y ∧ steps = before ++ after

/-- The same order with failures told in another way. -/
def toldBy (f : Failure → Failure) (order : Order α) : Order α := fun steps x =>
  ∃ steps', order steps' x ∧ steps = steps'.map fun step => { step with told := f ∘ step.told }

/-- An order for each item of a list, in turn. -/
inductive InTurn (order : α → Order β) : List α → Order (List β)
  | nil : InTurn order [] [] []
  | cons {x : α} {xs : List α} {steps rest : List Step} {y : β} {ys : List β}
      (h : order x steps y) (hrest : InTurn order xs rest ys) :
      InTurn order (x :: xs) (steps ++ rest) (y :: ys)

/-- Calls and a result that follow an order to its end, or up to the first call that fails. -/
inductive Kept (order : Order α) : List Call → Except Failure α → Prop
  | finished {steps : List Step} {x : α} (h : order steps x) :
      Kept order (steps.map Step.call) (.ok x)
  | stopped {before after : List Step} {step : Step} {x : α}
      (h : order (before ++ step :: after) x) (failure : Failure) :
      Kept order (before.map Step.call ++ [step.failing failure]) (.error (step.told failure))

namespace Kept

variable {order : Order α} {calls : List Call} {result : Except Failure α}

/-- An order that is kept can be completed. -/
lemma exists_complete (h : order.Kept calls result) : ∃ steps x, order steps x := by
  cases h with
  | finished h => exact ⟨_, _, h⟩
  | stopped h => exact ⟨_, _, h⟩

/-- A larger order is kept as well. -/
lemma mono {order' : Order α} (hle : ∀ steps x, order steps x → order' steps x)
    (h : order.Kept calls result) : order'.Kept calls result := by
  cases h with
  | finished h => exact .finished (hle _ _ h)
  | stopped h failure => exact .stopped (hle _ _ h) failure

/-- What is asked for is the beginning of a complete order. -/
lemma requests_isPrefix (h : order.Kept calls result) :
    ∃ steps x, order steps x ∧ calls.map Call.request <+: steps.map Step.request := by
  cases h with
  | finished h =>
      refine ⟨_, _, h, ?_⟩
      rw [List.map_map]
      exact List.prefix_rfl
  | @stopped before after step x h failure =>
      refine ⟨_, _, h, after.map Step.request, ?_⟩
      simp [Function.comp_def]

/-- A result is reached just if every call was answered and the order is complete. -/
lemma ok_iff (h : order.Kept calls result) :
    (∃ x, result = .ok x) ↔
      (∀ call ∈ calls, call.succeeded = true)
        ∧ ∃ steps x, order steps x ∧ calls = steps.map Step.call := by
  cases h with
  | @finished steps x h =>
      refine ⟨fun _ => ⟨fun call hcall => ?_, steps, x, h, rfl⟩, fun _ => ⟨x, rfl⟩⟩
      obtain ⟨step, -, rfl⟩ := List.mem_map.mp hcall
      exact step.call_succeeded
  | @stopped before after step x h failure =>
      refine ⟨fun ⟨y, hy⟩ => (by cases hy), fun ⟨hall, _⟩ => ?_⟩
      have hfail := hall (step.failing failure) (by simp)
      rw [Step.failing_succeeded] at hfail
      cases hfail

/-- A session that fails has stopped at a call that failed, and tells the failure of that call. -/
lemma of_error {failure : Failure} (h : order.Kept calls (.error failure)) :
    ∃ before step after x cause, order (before ++ step :: after) x
      ∧ calls = before.map Step.call ++ [step.failing cause] ∧ failure = step.told cause := by
  cases h with
  | @stopped before after step x h cause => exact ⟨before, step, after, x, cause, h, rfl, rfl⟩

/-- A session that reaches a result has gone through a complete order. -/
lemma of_ok {x : α} (h : order.Kept calls (.ok x)) :
    ∃ steps, order steps x ∧ calls = steps.map Step.call := by
  cases h with
  | finished h => exact ⟨_, h, rfl⟩

/-- After a complete first part, the second part goes on. -/
lemma andThen_left {second : α → Order β} {steps : List Step} {x : α} {made : List Call}
    {outcome : Except Failure β} (h : order steps x) (hnext : (second x).Kept made outcome) :
    (order.andThen second).Kept (steps.map Step.call ++ made) outcome := by
  cases hnext with
  | finished hsecond =>
      rw [← List.map_append]
      exact .finished ⟨_, _, _, h, hsecond, rfl⟩
  | @stopped before after step y hsecond failure =>
      have hwhole : (order.andThen second) ((steps ++ before) ++ step :: after) y :=
        ⟨_, _, _, h, hsecond, by rw [List.append_assoc]⟩
      rw [← List.append_assoc, ← List.map_append]
      exact .stopped hwhole failure

/-- If the first part stops, so does the whole. -/
lemma andThen_stopped {second : α → Order β} {made : List Call} {failure : Failure}
    (h : order.Kept made (.error failure)) (hnext : ∀ x, ∃ steps y, second x steps y) :
    (order.andThen second).Kept made (.error failure) := by
  cases h with
  | @stopped before after step x h failure =>
      obtain ⟨steps, y, hy⟩ := hnext x
      have hwhole : (order.andThen second) (before ++ step :: (after ++ steps)) y :=
        ⟨_, _, _, h, hy, by rw [List.append_assoc, List.cons_append]⟩
      exact .stopped hwhole failure

/-- Failures told in another way. -/
lemma mapError (f : Failure → Failure) (h : order.Kept calls result) :
    (order.toldBy f).Kept calls (result.mapError f) := by
  cases h with
  | @finished steps x h =>
      have hcalls : steps.map Step.call
          = (steps.map fun step => { step with told := f ∘ step.told }).map Step.call := by
        rw [List.map_map]
        rfl
      rw [hcalls]
      exact .finished ⟨steps, h, rfl⟩
  | @stopped before after step x h failure =>
      have hcalls : before.map Step.call
          = (before.map fun step => { step with told := f ∘ step.told }).map Step.call := by
        rw [List.map_map]
        rfl
      have htold : (order.toldBy f)
          ((before.map fun step => { step with told := f ∘ step.told })
            ++ { step with told := f ∘ step.told }
              :: after.map fun step => { step with told := f ∘ step.told }) x :=
        ⟨_, h, by rw [List.map_append, List.map_cons]⟩
      rw [hcalls]
      exact .stopped htold failure

end Kept

end Order

/-! ### Sessions that keep an order -/

namespace Session

/-- A session and its watched form: the watched one ends like the other one, in the same state of
the collaborators, and the calls it adds to the record keep the order. -/
def Keeps (watched : Session (Watched σ) α) (session : Session σ α) (order : Order α) : Prop :=
  ∀ state calls, ∃ made,
    watched (state, calls) = ((session state).1, (session state).2, calls ++ made)
      ∧ order.Kept made (session state).1

lemma mapFailure_apply (f : Failure → Failure) (session : Session σ α) (state : σ) :
    session.mapFailure f state = ((session state).1.mapError f, (session state).2) := by
  rw [mapFailure]
  rcases session state with ⟨_ | _, _⟩ <;> rfl

/-- A recorded call keeps the order that consists of it. -/
lemma keeps_watched (request : Request) (session : Session σ request.Reply) :
    (session.watched request).Keeps session (Order.single request) := by
  intro state calls
  refine ⟨[⟨request, (session state).1⟩], rfl, ?_⟩
  cases (session state).1 with
  | ok reply =>
      have hsingle : Order.single request [⟨request, reply, id⟩] reply := rfl
      exact .finished hsingle
  | error failure =>
      -- what the call would have been answered is of no account
      have hsingle : Order.single request ([] ++ ⟨request, default, id⟩ :: []) default := rfl
      exact .stopped hsingle failure

namespace Keeps

variable {watched : Session (Watched σ) α} {session : Session σ α} {order order' : Order α}

lemma mono (h : watched.Keeps session order) (hle : ∀ steps x, order steps x → order' steps x) :
    watched.Keeps session order' := by
  intro state calls
  obtain ⟨made, heq, hkept⟩ := h state calls
  exact ⟨made, heq, hkept.mono hle⟩

/-- Ending in a value keeps the order without calls. -/
lemma pure (x : α) : (Pure.pure x : Session (Watched σ) α).Keeps (Pure.pure x) (Order.value x) := by
  intro state calls
  have hvalue : Order.value x [] x := ⟨rfl, rfl⟩
  exact ⟨[], by simp, .finished hvalue⟩

/-- Sessions one after the other keep their orders one after the other. -/
lemma bind {watchedNext : α → Session (Watched σ) β} {next : α → Session σ β} {second : α → Order β}
    (h : watched.Keeps session order) (hnext : ∀ x, (watchedNext x).Keeps (next x) (second x)) :
    (watched >>= watchedNext).Keeps (session >>= next) (order.andThen second) := by
  intro state calls
  obtain ⟨made, heq, hkept⟩ := h state calls
  rw [bind_eq_andThen, bind_eq_andThen]
  rcases hrun : session state with ⟨failure | x, reached⟩
  · rw [hrun] at heq hkept
    refine ⟨made, ?_, ?_⟩
    · rw [andThen_of_error heq, andThen_of_error hrun]
    · rw [andThen_of_error hrun]
      refine hkept.andThen_stopped fun x => ?_
      obtain ⟨_, -, hsecond⟩ := hnext x reached calls
      exact hsecond.exists_complete
  · rw [hrun] at heq hkept
    obtain ⟨steps, hsteps, rfl⟩ := hkept.of_ok
    obtain ⟨more, heqNext, hsecond⟩ := hnext x reached (calls ++ steps.map Step.call)
    refine ⟨steps.map Step.call ++ more, ?_, ?_⟩
    · rw [andThen_of_ok heq, andThen_of_ok hrun, heqNext, List.append_assoc]
    · rw [andThen_of_ok hrun]
      exact hsecond.andThen_left hsteps

/-- Sessions for the items of a list keep their orders in turn. -/
lemma each {γ : Type} {watched : γ → Session (Watched σ) α} {session : γ → Session σ α}
    {order : γ → Order α} (h : ∀ x, (watched x).Keeps (session x) (order x)) (xs : List γ) :
    (Session.each watched xs).Keeps (Session.each session xs) (Order.InTurn order xs) := by
  induction xs with
  | nil =>
      refine (Keeps.pure []).mono ?_
      rintro steps ys ⟨rfl, rfl⟩
      exact .nil
  | cons x xs ih =>
      refine ((h x).bind fun y => ih.bind fun ys => Keeps.pure (y :: ys)).mono ?_
      rintro steps ys ⟨first, y, _, hfirst, ⟨rest, ys', _, hrest, ⟨rfl, rfl⟩, rfl⟩, rfl⟩
      rw [List.append_nil]
      exact .cons hfirst hrest

/-- Failures told in another way. -/
lemma mapFailure (f : Failure → Failure) (h : watched.Keeps session order) :
    (watched.mapFailure f).Keeps (session.mapFailure f) (order.toldBy f) := by
  intro state calls
  obtain ⟨made, heq, hkept⟩ := h state calls
  refine ⟨made, ?_, ?_⟩
  · rw [mapFailure_apply, mapFailure_apply, heq]
  · rw [mapFailure_apply]
    exact hkept.mapError f

end Keeps

end Session

/-! ### Calls to collaborators -/

section Collaborators

variable (db : Database σ) (llm : LanguageModel σ) (model : EmbeddingModel σ)
  (retriever : SchemaRetriever σ)

lemma Database.usableTables_keeps :
    db.watched.usableTables.Keeps db.usableTables (Order.single .usableTables) :=
  Session.keeps_watched .usableTables db.usableTables

lemma Database.describe_keeps (table : String) :
    (db.watched.describe table).Keeps (db.describe table) (Order.single (.structureOf table)) :=
  Session.keeps_watched (.structureOf table) (db.describe table)

lemma Database.run_keeps (sql : String) :
    (db.watched.run sql).Keeps (db.run sql) (Order.single (.execution sql)) :=
  Session.keeps_watched (.execution sql) (db.run sql)

lemma LanguageModel.predict_keeps (mode : CallMode) (prompt : Prompt) (bindings : Bindings) :
    (llm.watched.predict mode prompt bindings).Keeps (llm.predict mode prompt bindings)
      (Order.single (.completion mode prompt bindings)) :=
  Session.keeps_watched (.completion mode prompt bindings) (llm.predict mode prompt bindings)

lemma EmbeddingModel.ofQuestion_keeps (mode : CallMode) (text : String) :
    (model.watched.ofQuestion mode text).Keeps (model.ofQuestion mode text)
      (Order.single (.questionVector mode text)) :=
  Session.keeps_watched (.questionVector mode text) (model.ofQuestion mode text)

lemma EmbeddingModel.ofDocument_keeps (text : String) :
    (model.watched.ofDocument text).Keeps (model.ofDocument text)
      (Order.single (.documentVector text)) :=
  Session.keeps_watched (.documentVector text) (model.ofDocument text)

lemma SchemaRetriever.retrieve_keeps (mode : CallMode) (question : Question) :
    (retriever.watched.retrieve mode question).Keeps (retriever.retrieve mode question)
      (Order.single (.retrieval mode question)) :=
  Session.keeps_watched (.retrieval mode question) (retriever.retrieve mode question)

end Collaborators

end AskSql
