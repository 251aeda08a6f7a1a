import AskSql.Proofs.Calls.Alike
import AskSql.Proofs.Engine.Modes

/-!
Runs of one path that start with different records.

A session under watch never reads its record. So if it is run twice from the same state of the
collaborators, whatever was in the record before, the same calls are added to both records, and
whatever can be said about two records and stays true when both grow by a call can still be said
about them in the end.

* `SameCalls`: the same state beside records that are related.
* `Grows`: relations between records that stay true when both grow by a call.
* `TableEngine.watched_sameCalls`: a run of an engine under watch keeps them.
* `TableEngine.watched_ask_append`: a run after other calls adds the calls that it makes on its own.
-/

namespace AskSql

variable {σ : Type}

/-- The same state with records that are related. -/
def SameCalls (Q : List Call → List Call → Prop) (a b : Watched σ) : Prop :=
  a.1 = b.1 ∧ Q a.2 b.2

/-- Records that are related stay so when both grow by the same call. -/
def Grows (Q : List Call → List Call → Prop) : Prop :=
  ∀ calls calls' call, Q calls calls' → Q (calls ++ [call]) (calls' ++ [call])

variable {Q : List Call → List Call → Prop}

lemma Session.Recorded.sameCalls {α : Type} {watched : Session (Watched σ) α}
    {session : Session σ α} {call : Except Failure α → Call} (h : watched.Recorded session call)
    (hQ : Grows Q) : Session.Alike (SameCalls Q) watched watched := by
  rintro a b ⟨hstate, hcalls⟩
  rw [h a, h b, hstate]
  exact ⟨rfl, rfl, hQ _ _ _ hcalls⟩

section Collaborators

variable (hQ : Grows Q) (mode : CallMode)

include hQ

lemma Database.watched_sameCalls (db : Database σ) :
    Database.Alike (SameCalls Q) db.watched db.watched where
  dialect := rfl
  usableTables := (Session.watched_recorded .usableTables _).sameCalls hQ
  describe table := (Session.watched_recorded (.structureOf table) _).sameCalls hQ
  run sql := (Session.watched_recorded (.execution sql) _).sameCalls hQ

lemma LanguageModel.watched_sameCalls (llm : LanguageModel σ) :
    LanguageModel.Alike (SameCalls Q) mode mode llm.watched llm.watched :=
  fun prompt bindings =>
    (Session.watched_recorded (.completion mode prompt bindings) _).sameCalls hQ

lemma SchemaRetriever.watched_sameCalls (retriever : SchemaRetriever σ) :
    SchemaRetriever.Alike (SameCalls Q) mode mode retriever.watched retriever.watched :=
  fun question => (Session.watched_recorded (.retrieval mode question) _).sameCalls hQ

lemma StatementReader.watched_sameCalls (reader : StatementReader σ) :
    StatementReader.Alike (SameCalls Q) mode mode reader.watched reader.watched := by
  cases reader with
  | plain => exact .plain
  | vector model =>
      exact .vector fun text =>
        (Session.watched_recorded (.questionVector mode text) _).sameCalls hQ

lemma TableSource.watched_sameCalls (source : TableSource σ) (db : Database σ) :
    (source.watched db).provider.Alike (SameCalls Q) mode mode db.watched db.watched
      (source.watched db).provider := by
  have hdb := Database.watched_sameCalls hQ db
  cases source with
  | selected tables notes => exact ContextProvider.selected_alike hdb tables notes
  | all notes => exact ContextProvider.all_alike hdb notes
  | retrieved retriever heading =>
      exact ContextProvider.retrieved_alike hdb (retriever.watched_sameCalls hQ mode) heading
  | other provider =>
      exact fun question =>
        (Session.watched_recorded (.description mode question) _).sameCalls hQ

/-- From related records the runs of an engine under watch end in related records. -/
lemma TableEngine.watched_sameCalls (engine : TableEngine σ) (source : TableSource σ) :
    (engine.watched source).Alike (SameCalls Q) mode mode (engine.watched source) where
  database := Database.watched_sameCalls hQ engine.database
  provider := source.watched_sameCalls hQ mode engine.database
  reader := engine.reader.watched_sameCalls hQ mode
  llm := engine.llm.watched_sameCalls hQ mode
  sqlPrompt := rfl
  synthesisPrompt := rfl
  synthesize := rfl
  responseMode := rfl

end Collaborators

/-- A run after other calls adds the calls that it makes on its own. -/
theorem TableEngine.watched_ask_append (engine : TableEngine σ) (source : TableSource σ)
    (mode : CallMode) (question : Question) (state : σ) (before : List Call) :
    (engine.watched source).ask mode question (state, before)
      = (((engine.watched source).ask mode question (state, [])).1,
          ((engine.watched source).ask mode question (state, [])).2.1,
          before ++ ((engine.watched source).ask mode question (state, [])).2.2) := by
  have hgrows : Grows fun calls calls' => calls = before ++ calls' := by
    rintro calls calls' call rfl
    rw [List.append_assoc]
  obtain ⟨hresult, hstate, hcalls⟩ :=
    (engine.watched_sameCalls hgrows mode source).ask question (state, before) (state, [])
      ⟨rfl, (List.append_nil before).symm⟩
  exact Prod.ext hresult (Prod.ext hstate hcalls)

end AskSql
