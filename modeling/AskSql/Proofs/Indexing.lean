import AskSql.Proofs.Calls.Alike
import AskSql.Proofs.Sqlite.Discovery
import AskSql.Proofs.TableContext

/-!
The texts that an index embeds.

An index takes two calls for each table, one for its structure and one for the vector of its text,
and stops at the first of them that fails. So the texts that are embedded are those of the tables in
their order, up to the failure. A container describes the same tables on its own, without a model
beside it, and stores the texts. If the database tells it what it told the index, these are the
texts that are embedded, and but for the model both stop at the same table.

* `TableIndex.Entry`, `TableIndex.indexing`: a table that has been embedded, and the order of calls
  for a list of them.
* `TableIndex.FailsAt`, `TableIndex.StopsAt`: the ways in which a table fails, and the calls that
  are made for it.
* `TableIndex.embeddedTexts`: the texts that were to be embedded.
* `TableIndex.Indexes`, `TableIndex.watched_build_indexes`: which calls an index takes, and when it
  fails.
* `Database.Apart`: a database that tells the same whatever a model was asked in between.
* `TableIndex.InStep`, `TableIndex.each_inStep`: the texts for a container beside those that are
  embedded, table by table.
* `TableIndex.Mirrors`, `TableIndex.build_indexesContainer`: both builders as a whole.
-/

namespace AskSql

open Sqlite (documented tableDocument_eq)

variable {σ : Type}

/-! ### The text of a table -/

section Document

variable {db : Database σ} {table : String} {state reached : σ}

lemma tableDocument_of_error {failure : Failure}
    (h : db.describe table state = (.error failure, reached)) (context : Option String) :
    tableDocument db table context state = (.error failure, reached) :=
  Session.andThen_of_error h

lemma tableDocument_of_ok {structureText : String}
    (h : db.describe table state = (.ok structureText, reached)) (context : Option String) :
    tableDocument db table context state
      = (.ok (documented table structureText context), reached) := by
  rw [tableDocument_eq, Session.bind_eq_andThen, Session.andThen_of_ok h]
  rfl

end Document

namespace TableIndex

/-! ### Tables that have been embedded -/

/-- A table that has been embedded: what the database told of it, and the vector of its text. -/
structure Entry where
  table : TableSchema
  structureText : String
  vector : Embedding

namespace Entry

variable (entry : Entry)

/-- The text of the table, as it is made of what the database told. -/
def text : String := documented entry.table.name entry.structureText entry.table.context

/-- The document of the table. -/
def document : Document TableSchema :=
  ⟨"table:" ++ entry.table.name, entry.text, entry.table, entry.vector⟩

/-- The call for the structure. -/
def described : Step := ⟨.structureOf entry.table.name, entry.structureText, id⟩

/-- The call for the vector. -/
def embedded : Step := ⟨.documentVector entry.text, entry.vector, id⟩

/-- The calls for the table. -/
def steps : List Step := [entry.described, entry.embedded]

/-- The calls for the table, as they are recorded. -/
def calls : List Call := entry.steps.map Step.call

end Entry

/-- The order of calls for a table. -/
def entryOf (table : TableSchema) : Order (Document TableSchema) := fun steps document =>
  ∃ entry : Entry, entry.table = table ∧ steps = entry.steps ∧ document = entry.document

/-- The order of calls for an index: those for the tables, one after the other. -/
def indexing (tables : List TableSchema) : Order TableIndex := fun steps index =>
  ∃ entries : List Entry, entries.map Entry.table = tables ∧ steps = entries.flatMap Entry.steps
    ∧ index = ({} : TableIndex).addAll (entries.map Entry.document)

section Keeps

variable (db : Database σ) (model : EmbeddingModel σ)

lemma tableDocument_keeps (table : String) (context : Option String) :
    (tableDocument db.watched table context).Keeps (tableDocument db table context)
      fun steps text => ∃ structureText, steps = [⟨.structureOf table, structureText, id⟩]
        ∧ text = documented table structureText context := by
  rw [tableDocument_eq, tableDocument_eq]
  refine ((db.describe_keeps table).bind fun structureText => Session.Keeps.pure _).mono ?_
  rintro _ _ ⟨_, structureText, _, rfl, ⟨rfl, rfl⟩, rfl⟩
  exact ⟨structureText, rfl, rfl⟩

lemma document_keeps (table : TableSchema) :
    (document db.watched model.watched table).Keeps (document db model table) (entryOf table) := by
  refine ((tableDocument_keeps db table.name table.context).bind fun text =>
    (model.ofDocument_keeps text).bind fun v => Session.Keeps.pure _).mono ?_
  rintro _ _ ⟨_, _, _, ⟨structureText, rfl, rfl⟩, ⟨_, v, _, rfl, ⟨rfl, rfl⟩, rfl⟩, rfl⟩
  exact ⟨⟨table, structureText, v⟩, rfl, rfl, rfl⟩

end Keeps

/-- In turn, tables become entries. -/
lemma entries_of_inTurn {tables : List TableSchema} {steps : List Step}
    {documents : List (Document TableSchema)} (h : Order.InTurn entryOf tables steps documents) :
    ∃ entries : List Entry, entries.map Entry.table = tables ∧ steps = entries.flatMap Entry.steps
      ∧ documents = entries.map Entry.document := by
  induction h with
  | nil => exact ⟨[], rfl, rfl, rfl⟩
  | cons hentry _ ih =>
      obtain ⟨entry, rfl, rfl, rfl⟩ := hentry
      obtain ⟨entries, rfl, rfl, rfl⟩ := ih
      exact ⟨entry :: entries, rfl, rfl, rfl⟩

lemma build_keeps (db : Database σ) (model : EmbeddingModel σ) (tables : List TableSchema) :
    (build db.watched model.watched tables).Keeps (build db model tables) (indexing tables) := by
  refine ((Session.Keeps.each (document_keeps db model) tables).bind fun documents =>
    Session.Keeps.pure _).mono ?_
  rintro _ _ ⟨_, _, _, hturn, ⟨rfl, rfl⟩, rfl⟩
  obtain ⟨entries, htables, rfl, rfl⟩ := entries_of_inTurn hturn
  exact ⟨entries, htables, List.append_nil _, rfl⟩

/-- A call of an index belongs to one of the tables, for its structure or for its vector. -/
lemma split_steps {entries : List Entry} {before after : List Step} {step : Step}
    (h : before ++ step :: after = entries.flatMap Entry.steps) :
    ∃ done entry rest, entries = done ++ entry :: rest
      ∧ (before = done.flatMap Entry.steps ∧ step = entry.described
        ∨ before = done.flatMap Entry.steps ++ [entry.described] ∧ step = entry.embedded) := by
  induction entries generalizing before with
  | nil => simp at h
  | cons entry entries ih =>
      have hentry : (entry :: entries).flatMap Entry.steps
          = entry.described :: entry.embedded :: entries.flatMap Entry.steps := rfl
      rw [hentry] at h
      match before with
      | [] =>
          obtain ⟨rfl, -⟩ := List.cons.inj h
          exact ⟨[], entry, entries, rfl, .inl ⟨rfl, rfl⟩⟩
      | [first] =>
          obtain ⟨rfl, hrest⟩ := List.cons.inj h
          obtain ⟨rfl, -⟩ := List.cons.inj hrest
          exact ⟨[], entry, entries, rfl, .inr ⟨rfl, rfl⟩⟩
      | first :: second :: before =>
          simp only [List.cons_append, List.cons.injEq] at h
          obtain ⟨rfl, rfl, hrest⟩ := h
          obtain ⟨done, found, rest, rfl, hsplit⟩ := ih hrest
          refine ⟨entry :: done, found, rest, rfl, ?_⟩
          rcases hsplit with ⟨rfl, rfl⟩ | ⟨rfl, rfl⟩
          · exact .inl ⟨rfl, rfl⟩
          · exact .inr ⟨rfl, rfl⟩

/-! ### Which calls an index takes -/

/-- The ways in which a table fails: it is not described, or its text is not embedded. -/
inductive FailsAt (db : Database σ) (model : EmbeddingModel σ) (table : TableSchema) (state : σ)
    (failure : Failure) : Prop where
  | undescribed (h : (tableDocument db table.name table.context state).1 = .error failure)
  | unembedded {text : String} {reached : σ}
      (h : tableDocument db table.name table.context state = (.ok text, reached))
      (hvector : (model.ofDocument text reached).1 = .error failure)

/-- The calls that are made for a table that fails. -/
inductive StopsAt (table : TableSchema) (failure : Failure) : List Call → Prop where
  | undescribed : StopsAt table failure [⟨.structureOf table.name, .error failure⟩]
  | unembedded (structureText : String) : StopsAt table failure
      [⟨.structureOf table.name, .ok structureText⟩,
        ⟨.documentVector (documented table.name structureText table.context), .error failure⟩]

/-- The texts that were to be embedded, in order. -/
def embeddedTexts (calls : List Call) : List String :=
  calls.filterMap fun call => match call.request with
    | .documentVector text => some text
    | _ => none

section Document

variable {db : Database σ} {model : EmbeddingModel σ} {table : TableSchema}
  {state reached last : σ} {failure : Failure} {text : String}

lemma document_of_undescribed
    (h : tableDocument db table.name table.context state = (.error failure, reached)) :
    document db model table state = (.error failure, reached) :=
  Session.andThen_of_error h

lemma document_of_unembedded
    (h : tableDocument db table.name table.context state = (.ok text, reached))
    (hvector : model.ofDocument text reached = (.error failure, last)) :
    document db model table state = (.error failure, last) :=
  (Session.andThen_of_ok h).trans (Session.andThen_of_error hvector)

lemma document_of_vector {v : Embedding}
    (h : tableDocument db table.name table.context state = (.ok text, reached))
    (hvector : model.ofDocument text reached = (.ok v, last)) :
    document db model table state = (.ok ⟨"table:" ++ table.name, text, table, v⟩, last) :=
  (Session.andThen_of_ok h).trans (Session.andThen_of_ok hvector)

lemma document_error_iff :
    (document db model table state).1 = .error failure ↔ FailsAt db model table state failure := by
  constructor
  · intro h
    rcases htext : tableDocument db table.name table.context state with ⟨cause | text, reached⟩
    · rw [document_of_undescribed htext] at h
      obtain rfl := Except.error.inj h
      exact .undescribed (congrArg Prod.fst htext)
    · rcases hvector : model.ofDocument text reached with ⟨cause | v, last⟩
      · rw [document_of_unembedded htext hvector] at h
        obtain rfl := Except.error.inj h
        exact .unembedded htext (congrArg Prod.fst hvector)
      · rw [document_of_vector htext hvector] at h
        cases h
  · rintro (h | ⟨htext, hvector⟩)
    · rw [document_of_undescribed (Prod.ext h rfl)]
    · rw [document_of_unembedded htext (Prod.ext hvector rfl)]

end Document

lemma build_apply (db : Database σ) (model : EmbeddingModel σ) (tables : List TableSchema)
    (state : σ) :
    build db model tables state
      = ((Session.each (document db model) tables state).1.map ({} : TableIndex).addAll,
          (Session.each (document db model) tables state).2) :=
  Session.bind_pure_apply _ _ state

/-- What a watched run that indexes tables has done. -/
structure Indexes (db : Database σ) (model : EmbeddingModel σ) (tables : List TableSchema)
    (state : σ) (run : Except Failure TableIndex × Watched σ) : Prop where
  /-- It ends as it does unwatched. -/
  unwatched : build db model tables state = (run.1, run.2.1)
  /-- It fails just if some table fails once those before it have been embedded, and then with the
  failure of that table. -/
  fails_iff : ∀ failure, run.1 = .error failure
    ↔ ∃ before table after documents reached, tables = before ++ table :: after
        ∧ Session.each (document db model) before state = (.ok documents, reached)
        ∧ FailsAt db model table reached failure
  /-- If it does not fail, it has embedded the texts of the tables, in order. -/
  finished : ∀ index, run.1 = .ok index →
    ∃ entries : List Entry, entries.map Entry.table = tables
      ∧ run.2.2 = entries.flatMap Entry.calls
      ∧ embeddedTexts run.2.2 = entries.map Entry.text
      ∧ index = ({} : TableIndex).addAll (entries.map Entry.document)
  /-- If it fails, it has embedded those before the table that fails, and made no call after the
  one that failed. -/
  stopped : ∀ failure, run.1 = .error failure →
    ∃ (entries : List Entry) (table : TableSchema) (after : List TableSchema) (calls : List Call),
      tables = entries.map Entry.table ++ table :: after
        ∧ run.2.2 = entries.flatMap Entry.calls ++ calls
        ∧ embeddedTexts run.2.2 = entries.map Entry.text ++ embeddedTexts calls
        ∧ StopsAt table failure calls

lemma embeddedTexts_append (calls more : List Call) :
    embeddedTexts (calls ++ more) = embeddedTexts calls ++ embeddedTexts more :=
  List.filterMap_append

lemma embeddedTexts_entries (entries : List Entry) :
    embeddedTexts (entries.flatMap Entry.calls) = entries.map Entry.text := by
  induction entries with
  | nil => rfl
  | cons entry entries ih =>
      rw [List.flatMap_cons, embeddedTexts_append, ih]
      rfl

lemma map_call_steps (entries : List Entry) :
    (entries.flatMap Entry.steps).map Step.call = entries.flatMap Entry.calls :=
  List.map_flatMap

lemma stopsAt_of_kept {tables : List TableSchema} {calls : List Call} {failure : Failure}
    (h : (indexing tables).Kept calls (.error failure)) :
    ∃ (entries : List Entry) (table : TableSchema) (after : List TableSchema) (last : List Call),
      tables = entries.map Entry.table ++ table :: after
        ∧ calls = entries.flatMap Entry.calls ++ last ∧ StopsAt table failure last := by
  obtain ⟨before, step, after, index, cause, ⟨entries, rfl, hsteps, -⟩, rfl, rfl⟩ := h.of_error
  obtain ⟨done, entry, rest, rfl, ⟨rfl, rfl⟩ | ⟨rfl, rfl⟩⟩ := split_steps hsteps
  · refine ⟨done, entry.table, rest.map Entry.table, _, ?_, ?_, .undescribed⟩
    · rw [List.map_append, List.map_cons]
    · rw [map_call_steps]
      rfl
  · refine ⟨done, entry.table, rest.map Entry.table, _, ?_, ?_, .unembedded entry.structureText⟩
    · rw [List.map_append, List.map_cons]
    · rw [List.map_append, map_call_steps, List.append_assoc]
      rfl

lemma watched_build_indexes (db : Database σ) (model : EmbeddingModel σ)
    (tables : List TableSchema) (state : σ) :
    Indexes db model tables state (build db.watched model.watched tables (state, [])) := by
  obtain ⟨calls, hrun, hkept⟩ := build_keeps db model tables state []
  rw [hrun, List.nil_append]
  refine ⟨rfl, fun failure => ?_, fun index hindex => ?_, fun failure hfailure => ?_⟩
  · rw [build_apply, Session.map_eq_error_iff, Session.each_error_iff]
    simp only [document_error_iff]
  · rw [show (build db model tables state).1 = .ok index from hindex] at hkept
    obtain ⟨_, ⟨entries, htables, rfl, hdocuments⟩, rfl⟩ := hkept.of_ok
    exact ⟨entries, htables, map_call_steps entries,
      (congrArg embeddedTexts (map_call_steps entries)).trans (embeddedTexts_entries entries),
      hdocuments⟩
  · rw [show (build db model tables state).1 = .error failure from hfailure] at hkept
    obtain ⟨entries, table, after, last, htables, rfl, hstops⟩ := stopsAt_of_kept hkept
    refine ⟨entries, table, after, last, htables, rfl, ?_, hstops⟩
    show embeddedTexts (entries.flatMap Entry.calls ++ last) = _
    rw [embeddedTexts_append, embeddedTexts_entries]

/-! ### Watched tables -/

section Watched

variable {db : Database σ} {model : EmbeddingModel σ} {table : TableSchema} {state reached last : σ}
  {failure : Failure} {structureText : String}

/-- The calls for a table that is described, with what comes of embedding its text. -/
def callsFor (name structureText text : String) (vector : Except Failure Embedding) : List Call :=
  [⟨.structureOf name, .ok structureText⟩, ⟨.documentVector text, vector⟩]

lemma watched_describe_of {name : String} {outcome : Except Failure String}
    (h : db.describe name state = (outcome, reached)) (calls : List Call) :
    db.watched.describe name (state, calls)
      = (outcome, reached, calls ++ [⟨.structureOf name, outcome⟩]) :=
  (Session.watched_recorded (.structureOf name) (db.describe name)).apply_of h

lemma watched_ofDocument_of {text : String} {outcome : Except Failure Embedding}
    (h : model.ofDocument text state = (outcome, reached)) (calls : List Call) :
    model.watched.ofDocument text (state, calls)
      = (outcome, reached, calls ++ [⟨.documentVector text, outcome⟩]) :=
  (Session.watched_recorded (.documentVector text) (model.ofDocument text)).apply_of h

lemma watched_document_of_undescribed
    (h : db.describe table.name state = (.error failure, reached)) (calls : List Call) :
    document db.watched model.watched table (state, calls)
      = (.error failure, reached, calls ++ [⟨.structureOf table.name, .error failure⟩]) :=
  document_of_undescribed (tableDocument_of_error (watched_describe_of h calls) table.context)

lemma watched_document_of_unembedded
    (h : db.describe table.name state = (.ok structureText, reached))
    (hvector : model.ofDocument (documented table.name structureText table.context) reached
      = (.error failure, last)) (calls : List Call) :
    document db.watched model.watched table (state, calls)
      = (.error failure, last, calls ++ callsFor table.name structureText
          (documented table.name structureText table.context) (.error failure)) := by
  have htext := tableDocument_of_ok (watched_describe_of h calls) table.context
  rw [document_of_unembedded htext (watched_ofDocument_of hvector _), List.append_assoc]
  rfl

lemma watched_document_of_vector {v : Embedding}
    (h : db.describe table.name state = (.ok structureText, reached))
    (hvector : model.ofDocument (documented table.name structureText table.context) reached
      = (.ok v, last)) (calls : List Call) :
    document db.watched model.watched table (state, calls)
      = (.ok (Entry.document ⟨table, structureText, v⟩), last, calls ++ callsFor table.name
          structureText (documented table.name structureText table.context) (.ok v)) := by
  have htext := tableDocument_of_ok (watched_describe_of h calls) table.context
  rw [document_of_vector htext (watched_ofDocument_of hvector _), List.append_assoc]
  rfl

end Watched

end TableIndex

/-! ### The texts of a container -/

/-- A database that tells the same whatever a model was asked in between: states that are the same
for it stay so when it is asked for a structure in both of them, and when a text is embedded in one
of them. An index and a container are made one after the other, so this is what lets them be
compared. -/
structure Database.Apart (db : Database σ) (model : EmbeddingModel σ) (Same : σ → σ → Prop) :
    Prop where
  describe : ∀ table, Session.Alike Same (db.describe table) (db.describe table)
  embed : ∀ a b text, Same a b → Same a (model.ofDocument text b).2

namespace ContextContainer

/-- The text of a table, under the name of the table. -/
def namedDocument (db : Database σ) (contexts : Dictionary String) (name : String) :
    Session σ (String × String) := do
  let document ← tableDocument db name (contexts.get? name)
  return (name, document)

variable {db : Database σ} {contexts : Dictionary String} {state reached : σ}

lemma namedDocument_of_error {name : String} {failure : Failure}
    (h : db.describe name state = (.error failure, reached)) :
    namedDocument db contexts name state = (.error failure, reached) :=
  Session.andThen_of_error (tableDocument_of_error h _)

lemma namedDocument_of_ok {name structureText : String}
    (h : db.describe name state = (.ok structureText, reached)) :
    namedDocument db contexts name state
      = (.ok (name, documented name structureText (contexts.get? name)), reached) :=
  Session.andThen_of_ok (tableDocument_of_ok h _)

/-- The texts in a container are under the names of their tables. -/
lemma names_of_each {names : List String} {parts : List (String × String)}
    (h : Session.each (namedDocument db contexts) names state = (.ok parts, reached)) :
    parts.map Prod.fst = names := by
  refine Session.map_of_each (fun name part before after hpart => ?_) h
  obtain ⟨_, _, -, hdone⟩ := Session.of_bind_ok hpart
  obtain rfl := Except.ok.inj (congrArg Prod.fst hdone)
  rfl

lemma build_of_names {names : List String} (h : db.usableTables state = (.ok names, reached)) :
    build db contexts state
      = ((Session.each (namedDocument db contexts) names reached).1.map
            fun tables => { tables := some tables },
          (Session.each (namedDocument db contexts) names reached).2) :=
  (Session.andThen_of_ok h).trans (Session.bind_pure_apply _ _ reached)

end ContextContainer

namespace TableIndex

/-- How the texts of some tables stand to what comes of embedding the same tables. -/
structure InStep {α : Type} (parts : Except Failure (List (String × String)))
    (outcome : Except Failure α) (made : List Call) : Prop where
  /-- What is embedded are these texts, up to a failure of the model. -/
  begun : ∀ all, parts = .ok all → embeddedTexts made <+: all.map Prod.snd
  finished : ∀ all x, parts = .ok all → outcome = .ok x → embeddedTexts made = all.map Prod.snd
  /-- Unless the model fails, both fail alike or not at all. -/
  together : (∀ text failure, (⟨.documentVector text, .error failure⟩ : Call) ∉ made) →
    parts.map (fun _ => ()) = outcome.map fun _ => ()

namespace InStep

variable {α β : Type} {parts : Except Failure (List (String × String))} {outcome : Except Failure α}
  {made : List Call} {name structureText text : String}

lemma nil (x : α) : InStep (.ok []) (.ok x) [] where
  begun _ _ := List.nil_prefix
  finished all _ hall _ := by
    obtain rfl := Except.ok.inj hall
    rfl
  together _ := rfl

/-- At a table that is not described both stop. -/
lemma undescribed (name : String) (failure : Failure) :
    InStep (.error failure) (.error failure : Except Failure α)
      [⟨.structureOf name, .error failure⟩] where
  begun _ hall := by cases hall
  finished _ _ hall := by cases hall
  together _ := rfl

/-- At a table that is not embedded the texts go on. -/
lemma unembedded (failure : Failure) :
    InStep (parts.map ((name, text) :: ·)) (.error failure : Except Failure α)
      (callsFor name structureText text (.error failure)) where
  begun all hall := by
    cases parts with
    | error cause => cases hall
    | ok rest =>
        obtain rfl := Except.ok.inj hall
        exact ⟨rest.map Prod.snd, rfl⟩
  finished _ _ _ hx := by cases hx
  together hnone :=
    absurd (List.mem_cons_of_mem _ List.mem_cons_self) (hnone _ failure)

/-- A table that is embedded is in both. -/
lemma cons (h : InStep parts outcome made) (v : Embedding) (f : α → β) :
    InStep (parts.map ((name, text) :: ·)) (outcome.map f)
      (callsFor name structureText text (.ok v) ++ made) where
  begun all hall := by
    cases parts with
    | error cause => cases hall
    | ok rest =>
        obtain rfl := Except.ok.inj hall
        exact List.cons_prefix_cons.mpr ⟨rfl, h.begun rest rfl⟩
  finished all x hall hx := by
    cases parts with
    | error cause => cases hall
    | ok rest =>
        cases outcome with
        | error cause => cases hx
        | ok y =>
            obtain rfl := Except.ok.inj hall
            exact congrArg (_ :: ·) (h.finished rest y rfl rfl)
  together hnone := by
    have hmap := h.together fun text failure hmem =>
      hnone text failure (List.mem_append_right _ hmem)
    cases parts <;> cases outcome <;> exact hmap

end InStep

/-- Whatever the tables are, the two go in step. -/
lemma each_inStep {db : Database σ} {model : EmbeddingModel σ} {Same : σ → σ → Prop}
    (hapart : db.Apart model Same) (contexts : Dictionary String) (names : List String) {a b : σ}
    (hab : Same a b) (calls : List Call) :
    ∃ made, (Session.each (document db.watched model.watched) (schemasOf contexts names)
          (b, calls)).2.2 = calls ++ made
      ∧ InStep (Session.each (ContextContainer.namedDocument db contexts) names a).1
          (Session.each (document db.watched model.watched) (schemasOf contexts names)
            (b, calls)).1 made := by
  induction names generalizing a b calls with
  | nil => exact ⟨[], (List.append_nil calls).symm, .nil []⟩
  | cons name names ih =>
      have hschemas : schemasOf contexts (name :: names)
          = ⟨name, contexts.get? name⟩ :: schemasOf contexts names := rfl
      rw [hschemas]
      rcases hname : db.describe name a with ⟨failure | structureText, a'⟩
      · obtain ⟨b', hname', -⟩ := (hapart.describe name).exists_run hab hname
        rw [Session.each_cons_of_error (ContextContainer.namedDocument_of_error hname),
          Session.each_cons_of_error (watched_document_of_undescribed hname' calls)]
        exact ⟨_, rfl, .undescribed name failure⟩
      · obtain ⟨b', hname', hab'⟩ := (hapart.describe name).exists_run hab hname
        rw [Session.each_cons_of_ok (ContextContainer.namedDocument_of_ok hname)]
        rcases hvector : model.ofDocument (documented name structureText (contexts.get? name)) b'
          with ⟨failure | v, b''⟩
        · rw [Session.each_cons_of_error (watched_document_of_unembedded hname' hvector calls)]
          exact ⟨_, rfl, .unembedded failure⟩
        · have hab'' : Same a' b'' := by
            have hembed := hapart.embed a' b'
              (documented name structureText (contexts.get? name)) hab'
            rwa [hvector] at hembed
          rw [Session.each_cons_of_ok (watched_document_of_vector hname' hvector calls)]
          obtain ⟨made, hmade, hstep⟩ := ih hab'' _
          exact ⟨_, hmade.trans (List.append_assoc ..), hstep.cons v _⟩

/-- How a container stands to a watched run that indexes the tables `names`. -/
structure Mirrors (names : List String) (container : Except Failure ContextContainer)
    (run : Except Failure TableIndex × Watched σ) : Prop where
  /-- What is embedded are the texts in the container, in order, up to a failure of the model; if an
  index is made they are all of them. -/
  texts : ∀ c, container = .ok c → ∃ parts, c.tables = some parts ∧ parts.map Prod.fst = names
    ∧ embeddedTexts run.2.2 <+: parts.map Prod.snd
    ∧ ∀ index, run.1 = .ok index → embeddedTexts run.2.2 = parts.map Prod.snd
  /-- Unless the model fails, both are made, or neither is and the failure is the same. -/
  together : (∀ text failure, (⟨.documentVector text, .error failure⟩ : Call) ∉ run.2.2) →
    container.map (fun _ => ()) = run.1.map fun _ => ()

lemma watched_build_mirrors {db : Database σ} {model : EmbeddingModel σ} {Same : σ → σ → Prop}
    (hapart : db.Apart model Same) {contexts : Dictionary String} {names : List String}
    {state reached start : σ} (hnames : db.usableTables state = (.ok names, reached))
    (hstart : Same reached start) :
    Mirrors names (ContextContainer.build db contexts state).1
      (build db.watched model.watched (schemasOf contexts names) (start, [])) := by
  obtain ⟨made, hmade, hstep⟩ := each_inStep hapart contexts names hstart []
  rw [List.nil_append] at hmade
  rw [ContextContainer.build_of_names hnames, build_apply]
  refine ⟨fun c hc => ?_, fun hnone => ?_⟩
  · rcases hparts : Session.each (ContextContainer.namedDocument db contexts) names reached
      with ⟨failure | parts, last⟩
    · rw [hparts] at hc
      cases hc
    · rw [hparts] at hc hstep
      obtain rfl := Except.ok.inj hc
      refine ⟨parts, rfl, ContextContainer.names_of_each hparts, ?_, fun index hindex => ?_⟩
      · rw [hmade]
        exact hstep.begun parts rfl
      · rw [hmade]
        cases houtcome : (Session.each (document db.watched model.watched)
          (schemasOf contexts names) (start, [])).1 with
        | error failure =>
            rw [houtcome] at hindex
            cases hindex
        | ok documents => exact hstep.finished parts documents rfl houtcome
  · rw [hmade] at hnone
    have htogether := hstep.together hnone
    revert htogether
    generalize (Session.each (ContextContainer.namedDocument db contexts) names reached).1 = parts
    generalize (Session.each (document db.watched model.watched) (schemasOf contexts names)
      (start, [])).1 = outcome
    intro htogether
    cases parts <;> cases outcome <;> exact htogether

/-- **What an index embeds.** Whatever the collaborators are, indexing embeds the texts of the
tables in their order, one after the other as each of them has been described, and stops at the
first call that fails, with the failure of that call. If the tables are those that a database lists,
and the database does not mind what the model was asked, these are the texts that a container of
them holds; and unless the model fails, index and container are both made or fail in the same
way. -/
theorem build_indexesContainer (db : Database σ) (model : EmbeddingModel σ) :
    (∀ tables state, Indexes db model tables state
        (build db.watched model.watched tables (state, [])))
      ∧ ∀ (Same : σ → σ → Prop), db.Apart model Same →
        ∀ (contexts : Dictionary String) (names : List String) (state reached start : σ),
          db.usableTables state = (.ok names, reached) → Same reached start →
            Mirrors names (ContextContainer.build db contexts state).1
              (build db.watched model.watched (schemasOf contexts names) (start, [])) :=
  ⟨watched_build_indexes db model, fun _ hapart _ _ _ _ _ hnames hstart =>
    watched_build_mirrors hapart hnames hstart⟩

/-! ### A model that gives up -/

/-- A model that counts as well, and embeds nothing once there have been four questions. -/
def shyModel : EmbeddingModel Nat :=
  .ofQuestions fun _ asked =>
    (if asked < 4 then .ok [1] else .error (.embedding .noVector), asked + 1)

/-- The texts of the two tables. -/
def riverParts : List (String × String) :=
  [("city", "Schema of table city:\nTable 'city'\n"),
    ("river", "Schema of table river:\nTable 'river'\nContext of table river:\nSlow ones only")]

/-- The two tables are indexed, in a run that is watched. -/
def riverRun (start : Nat) : Except Failure TableIndex × Watched Nat :=
  build countingDatabase.watched shyModel.watched (schemasOf riverNotes ["city", "river"])
    (start, [])

/-- The container has both texts, and so has the index if it is begun at once. Begun one question
later it stops at the second text, which is the last that it has sent. -/
theorem shyModel_indexesContainer :
    countingDatabase.Apart shyModel (fun _ _ => True)
      ∧ countingDatabase.usableTables 0 = (.ok ["city", "river"], 1)
      ∧ ContextContainer.build countingDatabase riverNotes 0
        = (.ok { tables := some riverParts }, 3)
      ∧ (∀ start, Mirrors ["city", "river"] (ContextContainer.build countingDatabase riverNotes 0).1
          (riverRun start))
      ∧ embeddedTexts (riverRun 0).2.2 = riverParts.map Prod.snd
      ∧ (riverRun 1).1 = .error (.embedding .noVector)
      ∧ embeddedTexts (riverRun 1).2.2 = riverParts.map Prod.snd := by
  have hapart : countingDatabase.Apart shyModel (fun _ _ => True) :=
    ⟨fun _ _ _ _ => ⟨rfl, trivial⟩, fun _ _ _ _ => trivial⟩
  have hmirrors := (build_indexesContainer countingDatabase shyModel).2 _ hapart riverNotes
    ["city", "river"] 0 1
  exact ⟨hapart, rfl, rfl, fun start => hmirrors start rfl trivial, rfl, rfl, rfl⟩

end TableIndex

end AskSql
