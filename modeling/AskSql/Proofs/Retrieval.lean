import AskSql.Proofs.Engine.Execution
import AskSql.Proofs.Engine.Stages
import AskSql.Proofs.TableContext
import AskSql.Proofs.VectorStore.Ranking

/-!
Tables that are chosen by similarity.

An index is built by describing tables, so each of its tables can be described. If the descriptions
do not change, the tables that are retrieved for a question can therefore always be shown, each with
the text that it would have if the caller had chosen it. What is retrieved is part of what was
given: a search finds no document more often than it is in the store, and the store keeps no more
than the documents of the tables.

* `Database.Steady`, `Database.Shows`: descriptions that do not change, and what they are.
* `ContextProvider.HasText`: the text of a table, told by the provider of chosen tables.
* `ContextProvider.describeAll_schemas`: tables with known descriptions are described.
* `TableIndex.build_parts`: where the documents of an index come from.
* `TableIndex.Outcome`: how the retrieval for a question ends.
* `TableIndex.ShowsChosen`, `TableIndex.build_showsChosen`: what an index retrieves, and what is
  shown of it.
-/

namespace AskSql

variable {σ : Type}

/-! ### Descriptions that do not change -/

namespace Database

/-- The description of a table is the same in all states. -/
def Steady (db : Database σ) : Prop :=
  ∀ table state state', (db.describe table state).1 = (db.describe table state').1

/-- A database describes a table by a text, in every state. -/
def Shows (db : Database σ) (table structureText : String) : Prop :=
  ∀ state, (db.describe table state).1 = .ok structureText

/-- A description that was given once is given always. -/
lemma Steady.shows {db : Database σ} (h : db.Steady) {table structureText : String}
    {state reached : σ} (hdescribe : db.describe table state = (.ok structureText, reached)) :
    db.Shows table structureText := by
  intro state'
  rw [h table state' state, hdescribe]

/-- The note on a table follows its structure. -/
lemma Shows.describeTable {db : Database σ} {table structureText : String}
    (h : db.Shows table structureText) (note : Option String) (state : σ) :
    (describeTable db table note state).1 = .ok (annotated structureText note) := by
  obtain ⟨reached, hrun⟩ := Session.exists_reached (h state)
  rw [describeTable_eq, Session.bind_eq_andThen, Session.andThen_of_ok hrun]
  rfl

end Database

namespace ContextProvider

/-! ### The texts of tables -/

/-- The provider of chosen tables gives a table this text, with the context of the table, if there
is one, as the note on it. -/
def HasText (db : Database σ) (table : TableSchema) (part : String) : Prop :=
  ∀ (ref : TableRef) (notes : Dictionary String), ref.tableName = table.name →
    notes.get? table.name = noteOf table → ∀ mode question state,
      ((selected [ref] notes).context mode db question state).1 = .ok part

section Described

variable {db : Database σ} {tables : List TableSchema} {structureText : TableSchema → String}

/-- The text of a table: its structure, and its context if there is one. -/
def textOf (structureText : TableSchema → String) (table : TableSchema) : String :=
  annotated (structureText table) (noteOf table)

/-- Tables that the database describes have their texts, in order. -/
lemma describeAll_schemas (h : ∀ table ∈ tables, db.Shows table.name (structureText table))
    (state : σ) :
    (describeAll db (tables.map fun table => (table.name, noteOf table)) state).1
      = .ok (tables.map (textOf structureText)) := by
  rw [describeAll, Session.each_map]
  exact Session.each_fst (fun table htable => (h table htable).describeTable (noteOf table)) state

/-- So a block of such tables, with anything above them, is made of their texts. -/
lemma describeAll_joined (h : ∀ table ∈ tables, db.Shows table.name (structureText table))
    (above : List String) (state : σ) :
    ∃ last, (describeAll db (tables.map fun table => (table.name, noteOf table)) >>= fun blocks =>
        pure (joinBlocks (above ++ blocks))) state
      = (.ok (joinBlocks (above ++ tables.map (textOf structureText))), last) := by
  obtain ⟨last, hrun⟩ := Session.exists_reached (describeAll_schemas h state)
  exact ⟨last, Session.andThen_of_ok hrun⟩

/-- A retriever may choose the tables, under any heading. -/
lemma retrieved_schemas (h : ∀ table ∈ tables, db.Shows table.name (structureText table))
    {retriever : SchemaRetriever σ} {mode : CallMode} {question : Question} {state reached : σ}
    (hretrieve : retriever.retrieve mode question state = (.ok tables, reached))
    (heading : Option String) :
    ∃ last, (retrieved retriever heading).context mode db question state
      = (.ok (joinBlocks (heading.toList ++ tables.map (textOf structureText))), last) := by
  rw [retrieved_of_retrieve hretrieve]
  exact describeAll_joined h heading.toList reached

/-- The caller may choose the tables, if the notes are their contexts. -/
lemma selected_schemas (h : ∀ table ∈ tables, db.Shows table.name (structureText table))
    {refs : List TableRef} {notes : Dictionary String}
    (hrefs : refs.map TableRef.tableName = tables.map TableSchema.name)
    (hnotes : ∀ table ∈ tables, notes.get? table.name = noteOf table) (mode : CallMode)
    (question : Question) (state : σ) :
    ((selected refs notes).context mode db question state).1
      = .ok (joinBlocks (tables.map (textOf structureText))) := by
  have hnoted : noted notes (refs.map TableRef.tableName)
      = tables.map fun table => (table.name, noteOf table) := by
    rw [hrefs, noted, List.map_map]
    exact List.map_congr_left fun table htable => Prod.ext rfl (hnotes table htable)
  obtain ⟨last, hlast⟩ := describeAll_joined h [] state
  rw [selected_eq_block, hnoted, block]
  exact congrArg Prod.fst hlast

/-- A table that the database describes has its text. -/
lemma hasText {table : TableSchema} (h : db.Shows table.name (structureText table)) :
    HasText db table (textOf structureText table) := by
  intro ref notes hname hnote mode question state
  have hshows : ∀ table' ∈ [table], db.Shows table'.name (structureText table') :=
    List.forall_mem_singleton.mpr h
  have hrefs : [ref].map TableRef.tableName = [table].map TableSchema.name :=
    congrArg (fun name => [name]) hname
  exact selected_schemas hshows hrefs (List.forall_mem_singleton.mpr hnote) mode question state

end Described

end ContextProvider

/-! ### The index -/

namespace TableIndex

open ContextProvider (noteOf HasText textOf)

variable {db : Database σ} {model : EmbeddingModel σ} {tables : List TableSchema}
  {index : TableIndex} {state reached : σ}

/-- A document that was made for a table holds the table, which was described. -/
lemma of_document {table : TableSchema} {document : Document TableSchema}
    (h : TableIndex.document db model table state = (.ok document, reached)) :
    document.payload = table
      ∧ ∃ structureText after, db.describe table.name state = (.ok structureText, after) := by
  obtain ⟨text, _, htext, hvector⟩ := Session.of_bind_ok h
  obtain ⟨v, _, -, hdone⟩ := Session.of_bind_ok hvector
  obtain ⟨structureText, after, hdescribe, -⟩ := Session.of_bind_ok htext
  obtain rfl := Except.ok.inj (congrArg Prod.fst hdone)
  exact ⟨rfl, structureText, after, hdescribe⟩

/-- An index is made of one document for each table, and each table was described for it. -/
lemma build_parts (h : build db model tables state = (.ok index, reached)) :
    ∃ documents, Session.each (document db model) tables state = (.ok documents, reached)
      ∧ index = ({} : TableIndex).addAll documents
      ∧ documents.map (·.payload) = tables
      ∧ ∀ table ∈ tables, ∃ structureText before after,
          db.describe table.name before = (.ok structureText, after) := by
  obtain ⟨documents, last, heach, hdone⟩ := Session.of_bind_ok h
  obtain ⟨hindex, rfl⟩ := Prod.mk.inj hdone
  refine ⟨documents, heach, (Except.ok.inj hindex).symm,
    Session.map_of_each (fun _ _ _ _ hdocument => (of_document hdocument).1) heach,
    fun table htable => ?_⟩
  obtain ⟨_, before, _, hdocument⟩ := Session.exists_of_mem_each heach htable
  obtain ⟨-, structureText, after, hdescribe⟩ := of_document hdocument
  exact ⟨structureText, before, after, hdescribe⟩

/-! ### Retrieval -/

/-- How the retrieval of at most `topK` tables for a question ends. -/
inductive Outcome (index : TableIndex) (model : EmbeddingModel σ) (tables : List TableSchema)
    (topK : Nat) (mode : CallMode) (question : Question) (state : σ) :
    Except Failure (List TableSchema) × σ → Prop
  /-- The question brings no vector along, and the model fails to give one. -/
  | noVector {failure : Failure} {reached : σ} (hquestion : question.embedding = none)
      (hmodel : model.ofQuestion mode question.text state = (.error failure, reached)) :
      Outcome index model tables topK mode question state (.error failure, reached)
  /-- The vector does not have the dimension of the index. -/
  | wrongDimension {v : Embedding} {n : Nat} {reached : σ}
      (hv : questionVector model mode question state = (.ok v, reached))
      (hindex : index.dimension = some n) (hne : v.length ≠ n) :
      Outcome index model tables topK mode question state
        (.error (.embedding (.wrongDimension v.length n)), reached)
  /-- As many tables as there are, but not more than wanted, none more often than it was given:
  those whose documents a search finds. -/
  | found {v : Embedding} {hits : List (Match TableSchema)} {reached : σ}
      (hv : questionVector model mode question state = (.ok v, reached))
      (hsearch : VectorStore.search index v topK = .ok hits)
      (hlength : (hits.map (·.document.payload)).length = min topK index.size)
      (hgiven : (hits.map (·.document.payload)).Subperm tables) :
      Outcome index model tables topK mode question state
        (.ok (hits.map (·.document.payload)), reached)

/-- What is found in an index of tables: as many tables as there are, but not more than wanted, and
none more often than it was given. -/
lemma search_given {documents : List (Document TableSchema)} {v : Embedding}
    (hindex : index.Holds documents) (hdocuments : documents.map (·.payload) = tables)
    (hv : ∀ n, index.dimension = some n → v.length = n) (topK : Nat) :
    ∃ found, VectorStore.search index v topK = .ok found
      ∧ (found.map (·.document.payload)).length = min topK index.size
      ∧ (found.map (·.document.payload)).Subperm tables := by
  have htop := (VectorStore.ranking_sorted index v Embedding.similarity).topMatches topK
  refine ⟨_, hindex.search hv Embedding.similarity topK, ?_, ?_⟩
  · rw [List.length_map, htop.length]
  · have hkept : index.documents.Sublist documents := by
      rw [hindex.documents, fitting]
      exact List.filter_sublist
    obtain ⟨found, hperm, hfound⟩ := htop.subperm
    have hgiven : (found.map (·.payload)).Sublist tables := by
      rw [← hdocuments]
      exact (hfound.trans hkept).map (·.payload)
    refine ⟨found.map (·.payload), ?_, hgiven⟩
    have hpayloads := hperm.map (·.payload)
    rwa [List.map_map] at hpayloads

/-- The retrieval for a question ends in one of these ways. -/
lemma retrieve_outcome {documents : List (Document TableSchema)} (hindex : index.Holds documents)
    (hdocuments : documents.map (·.payload) = tables) (topK : Nat) (mode : CallMode)
    (question : Question) (state : σ) :
    Outcome index model tables topK mode question state
      ((index.retriever model topK).retrieve mode question state) := by
  have hretrieve : (index.retriever model topK).retrieve mode question
      = (questionVector model mode question).andThen fun v =>
          (Session.ofExcept (VectorStore.search index v topK)).andThen fun found =>
            Session.done (found.map (·.document.payload)) :=
    funext fun _ => congrFun (TableIndex.retriever_retrieve ..) _
  rw [hretrieve]
  rcases hv : questionVector model mode question state with ⟨failure | v, reached⟩
  · rw [Session.andThen_of_error hv]
    cases hquestion : question.embedding with
    | some w =>
        rw [questionVector_eq, hquestion] at hv
        cases hv
    | none =>
        rw [questionVector_eq, hquestion] at hv
        exact .noVector hquestion hv
  · rw [Session.andThen_of_ok hv]
    by_cases hfits : ∀ n, index.dimension = some n → v.length = n
    · obtain ⟨found, hsearch, hlength, hgiven⟩ := search_given hindex hdocuments hfits topK
      rw [hsearch]
      exact .found hv hsearch hlength hgiven
    · push Not at hfits
      obtain ⟨n, hdimension, hne⟩ := hfits
      have hsearch : VectorStore.search index v topK
          = .error (.embedding (.wrongDimension v.length n)) := by
        rw [VectorStore.search, hdimension]
        exact if_neg hne
      rw [hsearch]
      exact .wrongDimension hv hdimension hne

/-- Tables that are found are tables that were given. -/
lemma of_retrieve {documents : List (Document TableSchema)} (hindex : index.Holds documents)
    (hdocuments : documents.map (·.payload) = tables) {topK : Nat} {mode : CallMode}
    {question : Question} {found : List TableSchema}
    (hfound : (index.retriever model topK).retrieve mode question state = (.ok found, reached)) :
    found.length = min topK index.size ∧ found.Subperm tables := by
  have houtcome : Outcome index model tables topK mode question state (.ok found, reached) :=
    hfound ▸ retrieve_outcome hindex hdocuments topK mode question state
  cases houtcome with
  | found hv hsearch hlength hgiven => exact ⟨hlength, hgiven⟩

/-- What an index retrieves, and what is shown of it: `documents` are the documents that were made
for the tables, and `part` is the text of each table. -/
structure ShowsChosen (db : Database σ) (model : EmbeddingModel σ) (tables : List TableSchema)
    (index : TableIndex) (documents : List (Document TableSchema)) (part : TableSchema → String) :
    Prop where
  /-- Each table has the text that the provider of chosen tables gives it. -/
  parts : ∀ table ∈ tables, HasText db table (part table)
  /-- The provider of chosen tables puts these texts together, if the notes are the contexts. -/
  selected : ∀ refs notes, refs.map TableRef.tableName = tables.map TableSchema.name →
    (∀ table ∈ tables, notes.get? table.name = noteOf table) → ∀ mode question state,
      ((ContextProvider.selected refs notes).context mode db question state).1
        = .ok (joinBlocks (tables.map part))
  /-- The retrieval for a question fails for want of a fitting vector, or finds tables. -/
  retrieve : ∀ topK mode question state, Outcome index model tables topK mode question state
    ((index.retriever model topK).retrieve mode question state)
  /-- Tables that are retrieved are shown by their texts, under any heading. -/
  context : ∀ topK mode question state found reached,
    (index.retriever model topK).retrieve mode question state = (.ok found, reached) →
    ∀ heading, ∃ last,
      (ContextProvider.retrieved (index.retriever model topK) heading).context mode db question
          state
        = (.ok (joinBlocks (heading.toList ++ found.map part)), last)
  /-- So this is the description that an engine gives its model to write a statement from. -/
  asked : ∀ engine : TableEngine σ, engine.database = db →
    ∀ topK mode question state found reached,
      (index.retriever model topK).retrieve mode question state = (.ok found, reached) →
      ∀ heading, ∃ last,
        (engine.over (.retrieved (index.retriever model topK) heading)).ask mode question state
          = engine.askOver mode question (joinBlocks (heading.toList ++ found.map part)) last
  /-- If all documents have vectors of one length and enough tables are wanted, all are shown. -/
  all : (∃ n, ∀ document ∈ documents, document.embedding.length = n) →
    ∀ topK, tables.length ≤ topK → ∀ mode question state found reached,
      (index.retriever model topK).retrieve mode question state = (.ok found, reached) →
      found.Perm tables ∧ (found.map part).Perm (tables.map part)

/-- Documents of one dimension all stay. -/
lemma size_of_dimension {documents : List (Document TableSchema)} (hindex : index.Holds documents)
    {n : Nat} (hn : ∀ document ∈ documents, document.embedding.length = n) :
    index.size = documents.length := by
  have hall : fitting documents = documents := by
    cases documents with
    | nil => rfl
    | cons first rest =>
        refine List.filter_eq_self.mpr fun document hdocument => ?_
        rw [decide_eq_true_iff, dimensionOf, List.head?_cons, Option.map_some,
          hn first List.mem_cons_self, hn document hdocument]
  rw [VectorStore.size, hindex.documents, hall]

/-- **Retrieved tables are shown.** Let the descriptions of tables not change, and let an index of
tables be built. Then the retrieval for a question fails only if the model has no vector for it or
the vector does not fit the index; otherwise the tables that are found are among those given, and
each is shown by the text that it has if the caller chooses it. -/
theorem build_showsChosen (hsteady : db.Steady)
    (h : build db model tables state = (.ok index, reached)) :
    ∃ documents part, Session.each (document db model) tables state = (.ok documents, reached)
      ∧ ShowsChosen db model tables index documents part := by
  obtain ⟨documents, heach, hindex, hdocuments, hdescribed⟩ := build_parts h
  have hholds : index.Holds documents := by
    rw [hindex]
    simpa using VectorStore.holds_nil.addAll documents
  have hshows : ∀ table ∈ tables, ∃ structureText, db.Shows table.name structureText := by
    intro table htable
    obtain ⟨structureText, before, after, hdescribe⟩ := hdescribed table htable
    exact ⟨structureText, hsteady.shows hdescribe⟩
  choose! structureText hstructure using hshows
  have hshown {topK mode question state found reached}
      (hfound : (index.retriever model topK).retrieve mode question state = (.ok found, reached))
      (heading : Option String) : ∃ last,
      (ContextProvider.retrieved (index.retriever model topK) heading).context mode db question
          state
        = (.ok (joinBlocks (heading.toList ++ found.map (textOf structureText))), last) := by
    have hgiven := (of_retrieve hholds hdocuments hfound).2
    exact ContextProvider.retrieved_schemas
      (fun table htable => hstructure table (hgiven.subset htable)) hfound heading
  refine ⟨documents, textOf structureText, heach, ?_⟩
  exact {
    parts := fun table htable => ContextProvider.hasText (hstructure table htable)
    selected := fun refs notes hrefs hnotes =>
      ContextProvider.selected_schemas hstructure hrefs hnotes
    retrieve := retrieve_outcome hholds hdocuments
    context := fun topK mode question state found reached hfound => hshown hfound
    asked := fun engine hengine topK mode question state found reached hfound heading => by
      subst hengine
      obtain ⟨last, hlast⟩ := hshown hfound heading
      refine ⟨last, TableEngine.ask_of_context ?_⟩
      rw [TableEngine.tableContext_eq]
      exact hlast
    all := fun ⟨n, hn⟩ topK hle mode question state found reached hfound => by
      obtain ⟨hlength, hgiven⟩ := of_retrieve hholds hdocuments hfound
      have hsize : index.size = tables.length := by
        rw [size_of_dimension hholds hn, ← hdocuments, List.length_map]
      have hperm : found.Perm tables := hgiven.perm_of_length_le (by omega)
      exact ⟨hperm, hperm.map (textOf structureText)⟩ }

/-! ### An index of rivers and cities -/

/-- Tables of the counting database: one is given twice, once with a context that is empty. -/
def riverTables : List TableSchema :=
  [⟨"city", none⟩, ⟨"river", some "Slow ones only"⟩, ⟨"city", some ""⟩]

/-- A model that counts what it is asked, and gives all texts the same vector. -/
def plainModel : EmbeddingModel Nat :=
  .ofQuestions fun _ asked => (.ok [1, 0], asked + 1)

/-- Once these tables are indexed, whatever is retrieved of them is shown. -/
theorem riverTables_showsChosen :
    countingDatabase.Steady
      ∧ ∃ index, build countingDatabase plainModel riverTables 0 = (.ok index, 6)
        ∧ index.size = 3
        ∧ ∃ documents part,
          Session.each (document countingDatabase plainModel) riverTables 0 = (.ok documents, 6)
            ∧ ShowsChosen countingDatabase plainModel riverTables index documents part := by
  have hsteady : countingDatabase.Steady := fun _ _ _ => rfl
  exact ⟨hsteady, _, rfl, rfl, build_showsChosen hsteady rfl⟩

end TableIndex

end AskSql
