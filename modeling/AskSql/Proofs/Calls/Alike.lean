import AskSql.Proofs.Calls.Order

/-!
Sessions that go alike, over collaborators that differ.

Two runs of one path through different collaborators, or through different entry points of the same
ones, are compared by a relation between the states they are in: from related states they end in the
same result and in related states. What is alike step by step is alike as a whole, so that it is
enough to compare the collaborators.

* `Session.Alike`: sessions that go alike, closed under all ways to compose sessions.
* `Database.Alike`, `LanguageModel.Alike`, `EmbeddingModel.Alike`, `SchemaRetriever.Alike`:
  collaborators that answer alike.
* `SameRun`: a record beside the same state.
* `Renamed`: a record that reads like another one, with the entry points renamed.
* `Session.Recorded`: a session under watch; it is alike in both ways.
-/

namespace AskSql

variable {σ τ α β : Type}

/-! ### Sessions -/

namespace Session

/-- From related states the sessions end in the same result and in related states. -/
def Alike (R : σ → τ → Prop) (first : Session σ α) (second : Session τ α) : Prop :=
  ∀ a b, R a b → (first a).1 = (second b).1 ∧ R (first a).2 (second b).2

namespace Alike

variable {R : σ → τ → Prop} {first : Session σ α} {second : Session τ α}

lemma pure (x : α) : Alike R (Pure.pure x : Session σ α) (Pure.pure x) := fun _ _ h => ⟨rfl, h⟩

lemma ofExcept (x : Except Failure α) : Alike R (ofExcept x : Session σ α) (ofExcept x) := by
  cases x with
  | ok x => exact fun _ _ h => ⟨rfl, h⟩
  | error failure => exact fun _ _ h => ⟨rfl, h⟩

/-- What one session does from a state, the other one does from each related one. -/
lemma exists_run (h : Alike R first second) {a reached : σ} {b : τ} (hab : R a b)
    {outcome : Except Failure α} (hrun : first a = (outcome, reached)) :
    ∃ reached', second b = (outcome, reached') ∧ R reached reached' := by
  obtain ⟨hresult, hreached⟩ := h a b hab
  rw [hrun] at hresult hreached
  exact ⟨(second b).2, Prod.ext hresult.symm rfl, hreached⟩

/-- What follows alike is reached alike. -/
lemma bind {firstNext : α → Session σ β} {secondNext : α → Session τ β}
    (h : Alike R first second) (hnext : ∀ x, Alike R (firstNext x) (secondNext x)) :
    Alike R (first >>= firstNext) (second >>= secondNext) := by
  intro a b hab
  obtain ⟨hresult, hreached⟩ := h a b hab
  rw [bind_eq_andThen, bind_eq_andThen]
  rcases hfirst : first a with ⟨failure | x, a'⟩
  · rcases hsecond : second b with ⟨failure' | x', b'⟩
    · rw [hfirst, hsecond] at hresult hreached
      rw [andThen_of_error hfirst, andThen_of_error hsecond, Except.error.inj hresult]
      exact ⟨rfl, hreached⟩
    · rw [hfirst, hsecond] at hresult
      cases hresult
  · rcases hsecond : second b with ⟨failure' | x', b'⟩
    · rw [hfirst, hsecond] at hresult
      cases hresult
    · rw [hfirst, hsecond] at hresult hreached
      rw [andThen_of_ok hfirst, andThen_of_ok hsecond, Except.ok.inj hresult]
      exact hnext x' a' b' hreached

lemma each {γ : Type} {first : γ → Session σ α} {second : γ → Session τ α}
    (h : ∀ x, Alike R (first x) (second x)) (xs : List γ) :
    Alike R (each first xs) (each second xs) := by
  induction xs with
  | nil => exact pure []
  | cons x xs ih => exact (h x).bind fun y => ih.bind fun ys => pure (y :: ys)

lemma mapFailure (f : Failure → Failure) (h : Alike R first second) :
    Alike R (first.mapFailure f) (second.mapFailure f) := by
  intro a b hab
  obtain ⟨hresult, hreached⟩ := h a b hab
  rw [mapFailure_apply, mapFailure_apply, hresult]
  exact ⟨rfl, hreached⟩

end Alike

end Session

/-! ### Collaborators -/

/-- Databases that answer alike. -/
structure Database.Alike (R : σ → τ → Prop) (first : Database σ) (second : Database τ) : Prop where
  dialect : first.dialect = second.dialect
  usableTables : Session.Alike R first.usableTables second.usableTables
  describe : ∀ table, Session.Alike R (first.describe table) (second.describe table)
  run : ∀ sql, Session.Alike R (first.run sql) (second.run sql)

/-- Models that complete alike, the first through the entry point `mode` and the second through
`mode'`. -/
def LanguageModel.Alike (R : σ → τ → Prop) (mode mode' : CallMode) (first : LanguageModel σ)
    (second : LanguageModel τ) : Prop :=
  ∀ prompt bindings,
    Session.Alike R (first.predict mode prompt bindings) (second.predict mode' prompt bindings)

/-- Models that embed questions alike. -/
def EmbeddingModel.Alike (R : σ → τ → Prop) (mode mode' : CallMode) (first : EmbeddingModel σ)
    (second : EmbeddingModel τ) : Prop :=
  ∀ text, Session.Alike R (first.ofQuestion mode text) (second.ofQuestion mode' text)

/-- Retrievers that retrieve alike. -/
def SchemaRetriever.Alike (R : σ → τ → Prop) (mode mode' : CallMode) (first : SchemaRetriever σ)
    (second : SchemaRetriever τ) : Prop :=
  ∀ question, Session.Alike R (first.retrieve mode question) (second.retrieve mode' question)

/-- Ways of reading statements that read alike. -/
inductive StatementReader.Alike (R : σ → τ → Prop) (mode mode' : CallMode) :
    StatementReader σ → StatementReader τ → Prop
  | plain : Alike R mode mode' .plain .plain
  | vector {first : EmbeddingModel σ} {second : EmbeddingModel τ}
      (h : EmbeddingModel.Alike R mode mode' first second) :
      Alike R mode mode' (.vector first) (.vector second)

/-- Providers that describe the tables of their databases alike. -/
def ContextProvider.Alike (R : σ → τ → Prop) (mode mode' : CallMode) (db : Database σ)
    (db' : Database τ) (first : ContextProvider σ) (second : ContextProvider τ) : Prop :=
  ∀ question, Session.Alike R (first.context mode db question) (second.context mode' db' question)

/-! ### Records -/

/-- A state with a record beside it. -/
def SameRun (a : Watched σ) (b : σ) : Prop := a.1 = b

/-- The call as it is made through the entry point `mode`. -/
def Call.inMode (mode : CallMode) : Call → Call
  | ⟨.description _ question, outcome⟩ => ⟨.description mode question, outcome⟩
  | ⟨.retrieval _ question, outcome⟩ => ⟨.retrieval mode question, outcome⟩
  | ⟨.completion _ prompt bindings, outcome⟩ => ⟨.completion mode prompt bindings, outcome⟩
  | ⟨.questionVector _ text, outcome⟩ => ⟨.questionVector mode text, outcome⟩
  | call => call

/-- The same state with a record that, after `before`, reads like the other one with its calls made
through the entry point `mode`. -/
def Renamed (before : List Call) (mode : CallMode) (a b : Watched σ) : Prop :=
  a.1 = b.1 ∧ a.2 = before ++ b.2.map (Call.inMode mode)

/-- The watched session runs like the plain one and records the call that its result makes. -/
def Session.Recorded (watched : Session (Watched σ) α) (session : Session σ α)
    (call : Except Failure α → Call) : Prop :=
  ∀ state, watched state
    = ((session state.1).1, (session state.1).2, state.2 ++ [call (session state.1).1])

namespace Session.Recorded

variable {watched watched' : Session (Watched σ) α} {session session' : Session σ α}
  {call call' : Except Failure α → Call}

/-- What a recorded session does, from what it does otherwise. -/
lemma apply_of (h : watched.Recorded session call) {state : Watched σ} {outcome : Except Failure α}
    {reached : σ} (hrun : session state.1 = (outcome, reached)) :
    watched state = (outcome, reached, state.2 ++ [call outcome]) := by
  rw [h state, hrun]

/-- Under watch a session runs as it does otherwise. -/
lemma sameRun (h : watched.Recorded session call) : Session.Alike SameRun watched session := by
  rintro a b rfl
  rw [h a]
  exact ⟨rfl, rfl⟩

/-- A session that is recorded through two entry points leaves records that are renamings of one
another. -/
lemma renamed (h : watched.Recorded session call) (h' : watched'.Recorded session' call')
    (hsame : session = session') {mode : CallMode}
    (hcall : ∀ result, call result = (call' result).inMode mode) (before : List Call) :
    Session.Alike (Renamed before mode) watched watched' := by
  rintro a b ⟨hstate, hcalls⟩
  rw [h a, h' b, hstate, hsame]
  refine ⟨rfl, rfl, ?_⟩
  rw [hcalls, hcall, List.map_append, List.append_assoc]
  rfl

end Session.Recorded

/-- A session under watch is recorded as one call. -/
lemma Session.watched_recorded (request : Request) (session : Session σ request.Reply) :
    (session.watched request).Recorded session (Call.mk request) := fun _ => rfl

/-! ### Under watch and without -/

section SameRun

variable (db : Database σ) (llm : LanguageModel σ) (model : EmbeddingModel σ)
  (retriever : SchemaRetriever σ) (reader : StatementReader σ) (mode : CallMode)

lemma Database.watched_sameRun : Database.Alike SameRun db.watched db where
  dialect := rfl
  usableTables := (Session.watched_recorded .usableTables _).sameRun
  describe table := (Session.watched_recorded (.structureOf table) _).sameRun
  run sql := (Session.watched_recorded (.execution sql) _).sameRun

lemma LanguageModel.watched_sameRun : LanguageModel.Alike SameRun mode mode llm.watched llm :=
  fun prompt bindings =>
    (Session.watched_recorded (.completion mode prompt bindings) _).sameRun

lemma EmbeddingModel.watched_sameRun :
    EmbeddingModel.Alike SameRun mode mode model.watched model :=
  fun text => (Session.watched_recorded (.questionVector mode text) _).sameRun

lemma SchemaRetriever.watched_sameRun :
    SchemaRetriever.Alike SameRun mode mode retriever.watched retriever :=
  fun question => (Session.watched_recorded (.retrieval mode question) _).sameRun

lemma StatementReader.watched_sameRun :
    StatementReader.Alike SameRun mode mode reader.watched reader := by
  cases reader with
  | plain => exact .plain
  | vector model => exact .vector (model.watched_sameRun mode)

end SameRun

/-! ### Through one entry point and the other -/

/-- The asynchronous entry point behaves like the blocking one. -/
def LanguageModel.Even (llm : LanguageModel σ) : Prop :=
  ∀ prompt bindings, llm.predict .async prompt bindings = llm.predict .blocking prompt bindings

/-- The asynchronous entry point for questions behaves like the blocking one. -/
def EmbeddingModel.Even (model : EmbeddingModel σ) : Prop :=
  ∀ text, model.ofQuestion .async text = model.ofQuestion .blocking text

/-- The asynchronous entry point behaves like the blocking one. -/
def SchemaRetriever.Even (retriever : SchemaRetriever σ) : Prop :=
  ∀ question, retriever.retrieve .async question = retriever.retrieve .blocking question

/-- If vectors are filled in, the model that is asked for them has entry points that behave
alike. -/
def StatementReader.Even : StatementReader σ → Prop
  | .plain => True
  | .vector model => model.Even

/-- What is the same through the asynchronous entry point is so through every one. -/
lemma CallMode.eq_blocking (f : CallMode → α) (h : f .async = f .blocking) :
    ∀ mode, f mode = f .blocking
  | .blocking => rfl
  | .async => h

section Renamed

variable (before : List Call) (mode : CallMode)

lemma Database.watched_renamed (db : Database σ) :
    Database.Alike (Renamed before mode) db.watched db.watched where
  dialect := rfl
  usableTables := (Session.watched_recorded .usableTables _).renamed
    (Session.watched_recorded .usableTables _) rfl (fun _ => rfl) before
  describe table := (Session.watched_recorded (.structureOf table) _).renamed
    (Session.watched_recorded (.structureOf table) _) rfl (fun _ => rfl) before
  run sql := (Session.watched_recorded (.execution sql) _).renamed
    (Session.watched_recorded (.execution sql) _) rfl (fun _ => rfl) before

variable {llm : LanguageModel σ} {model : EmbeddingModel σ} {retriever : SchemaRetriever σ}
  {reader : StatementReader σ}

lemma LanguageModel.Even.watched_renamed (h : llm.Even) :
    LanguageModel.Alike (Renamed before mode) mode .blocking llm.watched llm.watched :=
  fun prompt bindings =>
    have hsame := CallMode.eq_blocking (llm.predict · prompt bindings) (h _ _) mode
    (Session.watched_recorded (.completion mode prompt bindings) _).renamed
      (Session.watched_recorded (.completion .blocking prompt bindings) _) hsame (fun _ => rfl)
      before

lemma EmbeddingModel.Even.watched_renamed (h : model.Even) :
    EmbeddingModel.Alike (Renamed before mode) mode .blocking model.watched model.watched :=
  fun text =>
    have hsame := CallMode.eq_blocking (model.ofQuestion · text) (h _) mode
    (Session.watched_recorded (.questionVector mode text) _).renamed
      (Session.watched_recorded (.questionVector .blocking text) _) hsame (fun _ => rfl) before

lemma SchemaRetriever.Even.watched_renamed (h : retriever.Even) :
    SchemaRetriever.Alike (Renamed before mode) mode .blocking retriever.watched
      retriever.watched :=
  fun question =>
    have hsame := CallMode.eq_blocking (retriever.retrieve · question) (h _) mode
    (Session.watched_recorded (.retrieval mode question) _).renamed
      (Session.watched_recorded (.retrieval .blocking question) _) hsame (fun _ => rfl) before

lemma StatementReader.Even.watched_renamed (h : reader.Even) :
    StatementReader.Alike (Renamed before mode) mode .blocking reader.watched reader.watched := by
  cases reader with
  | plain => exact .plain
  | vector model => exact .vector (EmbeddingModel.Even.watched_renamed before mode h)

end Renamed

end AskSql
