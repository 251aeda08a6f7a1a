import AskSql.Proofs.Engine.Records
import AskSql.Proofs.Engine.SynthesisPrompt

/-!
Providers that describe the same tables.

The three usual providers pick their tables in three ways and take the notes on them from two
places. Whatever the way, what is described are tables with their notes, in order; so providers that
pick the same tables and have the same notes on them describe them alike, with the same text or the
same first failure.

* `noted`, `schemasOf`: tables with their notes, by name and as a retriever brings them along.
* `ContextProvider.block`: the description of tables with their notes.
* `ContextProvider.selected_context`, `ContextProvider.all_context`,
  `ContextProvider.retrieved_context`: each provider comes down to it.
* `underHeading`, `joinBlocks_heading`: what a heading adds.
* `EngineOptions.nlSql_eq`: the engine over the tables of a list.
* `SameTables`, `context_sameTables`: the providers agree, and so do the engines over them.
-/

namespace AskSql

variable {σ : Type}

/-! ### Tables with their notes -/

/-- Tables with the notes on them. -/
def noted (notes : Dictionary String) (names : List String) : List (String × Option String) :=
  names.map fun name => (name, notes.get? name)

/-- Tables as a retriever brings them along, with the notes on them. -/
def schemasOf (notes : Dictionary String) (names : List String) : List TableSchema :=
  names.map fun name => ⟨name, notes.get? name⟩

/-- The notes that a retriever brings along are the same, since none of them is empty. -/
lemma map_noteOf_schemasOf {notes : Dictionary String}
    (hnotes : ∀ table, notes.get? table ≠ some "") (names : List String) :
    (schemasOf notes names).map (fun table => (table.name, ContextProvider.noteOf table))
      = noted notes names := by
  rw [schemasOf, noted, List.map_map]
  refine List.map_congr_left fun name _ => Prod.ext rfl ?_
  show (notes.get? name).filter (· != "") = notes.get? name
  cases hnote : notes.get? name with
  | none => rfl
  | some note =>
      have hne : note ≠ "" := fun hempty => hnotes name (hempty ▸ hnote)
      exact if_pos (bne_iff_ne.mpr hne)

namespace ContextProvider

/-- The description of tables with their notes. -/
def block (db : Database σ) (tables : List (String × Option String)) : Session σ String := do
  let blocks ← describeAll db tables
  return joinBlocks blocks

section Context

variable {db : Database σ} {mode : CallMode} {question : Question} {state reached : σ}

lemma selected_eq_block (tables : List TableRef) (notes : Dictionary String) :
    (selected tables notes).context mode db question
      = block db (noted notes (tables.map TableRef.tableName)) := by
  rw [selected_context, noted, List.map_map]
  rfl

lemma all_of_usable {notes : Dictionary String} {names : List String}
    (h : db.usableTables state = (.ok names, reached)) :
    (all notes).context mode db question state = block db (noted notes names) reached := by
  rw [all_context]
  exact Session.andThen_of_ok h

lemma retrieved_of_retrieve {retriever : SchemaRetriever σ} {heading : Option String}
    {tables : List TableSchema}
    (h : retriever.retrieve mode question state = (.ok tables, reached)) :
    (retrieved retriever heading).context mode db question state
      = (describeAll db (tables.map fun table => (table.name, noteOf table)) >>= fun blocks =>
          pure (joinBlocks (heading.toList ++ blocks))) reached := by
  rw [retrieved_context]
  exact Session.andThen_of_ok h

end Context

end ContextProvider

/-! ### Headings -/

/-- A text under a heading, if there is one to stand there. -/
def underHeading (heading : String) (tables : List TableSchema) (text : String) : String :=
  if tables = [] then heading else heading ++ "\n\n" ++ text

/-- A heading stands above the blocks, one for each table. -/
lemma joinBlocks_heading (heading : String) {tables : List TableSchema} {blocks : List String}
    (h : blocks.length = tables.length) :
    joinBlocks (heading :: blocks) = underHeading heading tables (joinBlocks blocks) := by
  cases blocks with
  | nil =>
      obtain rfl := List.length_eq_zero_iff.mp h.symm
      rfl
  | cons block blocks =>
      have htables : tables ≠ [] := List.ne_nil_of_length_pos (h ▸ Nat.succ_pos _)
      rw [underHeading, if_neg htables]
      rfl

namespace ContextProvider

/-- Under a heading the tables are described as without it. -/
lemma retrieved_heading {retriever : SchemaRetriever σ} {db : Database σ} {mode : CallMode}
    {question : Question} {state reached : σ} {tables : List TableSchema}
    (h : retriever.retrieve mode question state = (.ok tables, reached)) (heading : String) :
    (retrieved retriever (some heading)).context mode db question state
      = (((retrieved retriever none).context mode db question state).1.map
            (underHeading heading tables),
          ((retrieved retriever none).context mode db question state).2) := by
  rw [retrieved_of_retrieve h, retrieved_of_retrieve h, Session.bind_eq_andThen,
    Session.bind_eq_andThen]
  rcases hblocks : describeAll db (tables.map fun table => (table.name, noteOf table)) reached
    with ⟨failure | blocks, last⟩
  · rw [Session.andThen_of_error hblocks, Session.andThen_of_error hblocks]
    rfl
  · have hlength : blocks.length = tables.length :=
      (Session.length_of_each hblocks).trans (List.length_map _)
    rw [Session.andThen_of_ok hblocks, Session.andThen_of_ok hblocks]
    show (Except.ok (joinBlocks (heading :: blocks)), last) = _
    rw [joinBlocks_heading heading hlength]
    rfl

end ContextProvider

/-! ### Engines over the same tables -/

/-- The prompts that a model was asked to complete, with what was bound in them. -/
def promptsOf (calls : List Call) : List (Prompt × Bindings) :=
  calls.filterMap fun call => match call.request with
    | .completion _ prompt bindings => some (prompt, bindings)
    | _ => none

/-- Two runs that differ by a call at the beginning of the first one, which is none of the model. -/
structure SameAfter (first : Call) (run run' : Except Failure Answer × Watched σ) : Prop where
  answer : run.1 = run'.1
  state : run.2.1 = run'.2.1
  calls : run.2.2 = first :: run'.2.2
  prompts : promptsOf run.2.2 = promptsOf run'.2.2

namespace TableEngine

variable (engine : TableEngine σ) {notes : Dictionary String} {refs : List TableRef}

/-- An engine that describes all tables lists them, and then goes on as over the list. -/
lemma ask_all (mode : CallMode) (question : Question) {state reached : σ}
    (h : engine.database.usableTables state = (.ok (refs.map TableRef.tableName), reached)) :
    (engine.over (.all notes)).ask mode question state
      = (engine.over (.selected refs notes)).ask mode question reached := by
  have hcontext : (engine.over (.all notes)).tableContext mode question state
      = (engine.over (.selected refs notes)).tableContext mode question reached := by
    rw [tableContext_eq, tableContext_eq]
    exact (ContextProvider.all_of_usable h).trans
      (congrFun (ContextProvider.selected_eq_block refs notes).symm reached)
  rw [ask_eq, ask_eq]
  exact Session.bind_apply_congr hcontext _

/-- The listing is all that the record shows of the difference. -/
lemma all_sameAfter (mode : CallMode) (question : Question) {state reached : σ}
    (h : engine.database.usableTables state = (.ok (refs.map TableRef.tableName), reached)) :
    SameAfter ⟨.usableTables, .ok (refs.map TableRef.tableName)⟩
      ((engine.watched (.all notes)).ask mode question (state, []))
      ((engine.watched (.selected refs notes)).ask mode question (reached, [])) := by
  have hlisted : (engine.watched (.all notes)).database.usableTables (state, [])
      = (.ok (refs.map TableRef.tableName), reached,
          [⟨.usableTables, .ok (refs.map TableRef.tableName)⟩]) :=
    (Session.watched_recorded .usableTables engine.database.usableTables).apply_of h
  have hask : (engine.watched (.all notes)).ask mode question (state, [])
      = (engine.watched (.selected refs notes)).ask mode question
          (reached, [⟨.usableTables, .ok (refs.map TableRef.tableName)⟩]) :=
    (engine.watched (.all notes)).ask_all mode question hlisted
  rw [hask, watched_ask_append]
  exact ⟨rfl, rfl, rfl, rfl⟩

end TableEngine

namespace EngineOptions

/-- The engine over the tables of a list, once its prompt is accepted. -/
def tableEngine (options : EngineOptions) (db : Database σ) (models : Models σ)
    (tables : Option (List TableRef)) : TableEngine σ :=
  options.assembled db models.llm (.chosen tables options.notes) .plain

lemma nlSql_eq (options : EngineOptions) (db : Database σ) (models : Models σ)
    (tables : Option (List TableRef)) :
    options.nlSql db models tables
      = options.answerPrompt.checkSynthesis >>= fun _ =>
          .ok (options.tableEngine db models tables) :=
  options.build_eq ..

/-- Whether an engine is put together does not depend on the tables. -/
lemma nlSql_of_ok {options : EngineOptions} {db : Database σ} {models : Models σ}
    {tables : Option (List TableRef)} {engine : TableEngine σ}
    (h : options.nlSql db models tables = .ok engine) :
    engine = options.tableEngine db models tables
      ∧ ∀ others, options.nlSql db models others = .ok (options.tableEngine db models others) := by
  simp only [nlSql_eq] at h ⊢
  cases hcheck : options.answerPrompt.checkSynthesis with
  | error failure =>
      rw [hcheck] at h
      cases h
  | ok accepted =>
      rw [hcheck] at h
      exact ⟨(Except.ok.inj h).symm, fun _ => rfl⟩

end EngineOptions

/-! ### The providers agree -/

/-- What the providers make of the tables `names` with their notes, of which `refs` are
references. -/
structure SameTables (db : Database σ) (notes : Dictionary String) (names : List String)
    (refs : List TableRef) : Prop where
  /-- Tables that a retriever brings along are described like those that the caller chose. -/
  retrieved : ∀ (retriever : SchemaRetriever σ) mode question state reached,
    retriever.retrieve mode question state = (.ok (schemasOf notes names), reached) →
    (ContextProvider.retrieved retriever none).context mode db question state
      = (ContextProvider.selected refs notes).context mode db question reached
  /-- All tables are described like those that the caller chose, if they are the same. -/
  all : ∀ mode question state reached, db.usableTables state = (.ok names, reached) →
    (ContextProvider.all notes).context mode db question state
      = (ContextProvider.selected refs notes).context mode db question reached
  /-- A heading stands above the same text, or alone if no table is picked. -/
  heading : ∀ (retriever : SchemaRetriever σ) heading tables mode question state reached,
    retriever.retrieve mode question state = (.ok tables, reached) →
    (ContextProvider.retrieved retriever (some heading)).context mode db question state
      = (((ContextProvider.retrieved retriever none).context mode db question state).1.map
            (underHeading heading tables),
          ((ContextProvider.retrieved retriever none).context mode db question state).2)
  /-- Engines over no list, over an empty one and over the list of all tables answer alike and make
  the same calls, so that the model gets the same prompts; the first two only list the tables
  before. -/
  engines : ∀ (options : EngineOptions) (models : Models σ) (engine : TableEngine σ),
    options.notes = notes → options.nlSql db models none = .ok engine →
    engine.over (.all notes) = engine
      ∧ options.nlSql db models (some []) = .ok engine
      ∧ (refs ≠ [] →
          options.nlSql db models (some refs) = .ok (engine.over (.selected refs notes)))
      ∧ ∀ mode question state reached, db.usableTables state = (.ok names, reached) →
          engine.ask mode question state
              = (engine.over (.selected refs notes)).ask mode question reached
            ∧ SameAfter ⟨.usableTables, .ok names⟩
              ((engine.watched (.all notes)).ask mode question (state, []))
              ((engine.watched (.selected refs notes)).ask mode question (reached, []))

/-- **The providers agree.** Let no note be empty. Then tables are described alike, up to the same
text or the same first failure, whether the caller refers to them by names or by handles, a
retriever brings them along, or they are all there are; a heading only stands above. So an engine
over all tables and one over a list of them send the same prompts. -/
theorem context_sameTables (db : Database σ) (notes : Dictionary String) (names : List String)
    (refs : List TableRef) (hnotes : ∀ table, notes.get? table ≠ some "")
    (hrefs : refs.map TableRef.tableName = names) : SameTables db notes names refs := by
  subst hrefs
  refine ⟨fun retriever mode question state reached h => ?_,
    fun mode question state reached h => ?_, fun retriever heading tables mode question state
      reached h => ContextProvider.retrieved_heading h heading,
    fun options models engine hoptions hengine => ?_⟩
  · rw [ContextProvider.retrieved_of_retrieve h, map_noteOf_schemasOf hnotes,
      ContextProvider.selected_eq_block]
    rfl
  · rw [ContextProvider.all_of_usable h, ContextProvider.selected_eq_block]
  · subst hoptions
    obtain ⟨rfl, hbuilt⟩ := EngineOptions.nlSql_of_ok hengine
    refine ⟨rfl, hbuilt (some []), fun hne => ?_, fun mode question state reached h =>
      ⟨(options.tableEngine db models none).ask_all mode question h,
        (options.tableEngine db models none).all_sameAfter mode question h⟩⟩
    obtain ⟨ref, rest, rfl⟩ := List.exists_cons_of_ne_nil hne
    exact hbuilt (some (ref :: rest))

/-! ### A database that counts -/

/-- A database with two tables that counts what it is asked. -/
def countingDatabase : Database Nat where
  dialect := "sqlite"
  usableTables := fun asked => (.ok ["city", "river"], asked + 1)
  describe table := fun asked => (.ok ("Table '" ++ table ++ "'"), asked + 1)
  run _ := fun asked => (.error (.database .notADatabase), asked + 1)

/-- A note on one of them. -/
def riverNotes : Dictionary String := .ofList [("river", "Slow ones only")]

/-- References to them, one with a qualifier. -/
def riverRefs : List TableRef := [.named "city", .handle ⟨"river", some "main"⟩]

/-- A retriever that brings both along. -/
def riverRetriever : SchemaRetriever Nat where
  retrieve _ _ := .done (schemasOf riverNotes ["city", "river"])

/-- A question about them. -/
def whichRiver : Question := { text := "Which river?" }

lemma riverNotes_ne_empty (table : String) : riverNotes.get? table ≠ some "" := by
  have hnotes : riverNotes.get? table = if table = "river" then some "Slow ones only" else none :=
    Dictionary.get?_insert .empty "river" table "Slow ones only"
  rw [hnotes]
  split <;> simp

/-- All providers describe the two tables alike, and engines over them send the same prompts. -/
theorem countingDatabase_sameTables :
    (∀ table, riverNotes.get? table ≠ some "")
    ∧ riverRefs.map TableRef.tableName = ["city", "river"]
    ∧ (ContextProvider.retrieved riverRetriever none).context .async countingDatabase whichRiver 0
      = (ContextProvider.selected riverRefs riverNotes).context .async countingDatabase whichRiver 0
    ∧ (ContextProvider.all riverNotes).context .blocking countingDatabase whichRiver 0
      = (.ok "Table 'city'\n\nTable 'river' The table description is: Slow ones only", 3)
    ∧ (ContextProvider.retrieved riverRetriever (some "Tables:")).context .blocking countingDatabase
        whichRiver 0
      = (.ok "Tables:\n\nTable 'city'\n\nTable 'river' The table description is: Slow ones only", 2)
    ∧ ∃ engine, ({ notes := riverNotes } : EngineOptions).nlSql countingDatabase echoModels none
        = .ok engine
      ∧ ({ notes := riverNotes } : EngineOptions).nlSql countingDatabase echoModels (some riverRefs)
        = .ok (engine.over (.selected riverRefs riverNotes))
      ∧ SameAfter ⟨.usableTables, .ok ["city", "river"]⟩
        ((engine.watched (.all riverNotes)).ask .async whichRiver (0, []))
        ((engine.watched (.selected riverRefs riverNotes)).ask .async whichRiver (1, [])) := by
  have hsame := context_sameTables countingDatabase riverNotes ["city", "river"] riverRefs
    riverNotes_ne_empty rfl
  have hbuilt : ∃ engine, ({ notes := riverNotes } : EngineOptions).nlSql countingDatabase
      echoModels none = .ok engine := by
    rw [EngineOptions.nlSql_eq]
    exact ⟨_, congrArg (· >>= _) Prompt.sqlSynthesisV2_phrasesAnswers.checkSynthesis⟩
  obtain ⟨engine, hengine⟩ := hbuilt
  obtain ⟨-, -, hlist, hasks⟩ := hsame.engines _ echoModels engine rfl hengine
  exact ⟨riverNotes_ne_empty, rfl, hsame.retrieved riverRetriever .async whichRiver 0 0 rfl,
    (hsame.all .blocking whichRiver 0 1 rfl).trans rfl,
    (hsame.heading riverRetriever "Tables:" _ .blocking whichRiver 0 0 rfl).trans rfl,
    engine, hengine, hlist (List.cons_ne_nil _ _), (hasks .async whichRiver 0 1 rfl).2⟩

end AskSql
