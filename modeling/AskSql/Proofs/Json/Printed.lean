import AskSql.Answer
import AskSql.Proofs.Json.Records
import AskSql.Proofs.Json.Values
import AskSql.Question
import AskSql.Table

/-!
Questions, tables, nodes and answers, printed and read back.

Each of them is an object with all of its fields, those that are missing printed as null. Every
field is read back by itself, and then so is the record. This leaves out numbers with a fraction or
an exponent, which may be rounded when they are read: vectors, scores, and such numbers in what is
known about an answer.

* `RoundTrips`: what is printed is read back, and printed as the same text again.
* `Answer.Plain`: answers without floating-point numbers.
* `printed_roundTrips`: questions, tables, nodes and answers without floating-point numbers.
-/

namespace AskSql

open Json

/-- What is printed is read back, and printed as the same text again. -/
structure RoundTrips {α : Type} (readJson : Nat → Reader α) (writeJson : α → List Char) (x : α) :
    Prop where
  read : readAll (readJson depthLimit) (writeJson x) = some x
  printed : (readAll (readJson depthLimit) (writeJson x)).map writeJson = some (writeJson x)

lemma RoundTrips.of_reads {α : Type} {readJson : Nat → Reader α} {writeJson : α → List Char} {x : α}
    (h : Reads (readJson depthLimit) (writeJson x) x) : RoundTrips readJson writeJson x := by
  refine ⟨h.readAll_eq, ?_⟩
  rw [h.readAll_eq, Option.map_some]

/-! ### Fields that may be missing -/

/-- A field with a text that may be missing is read back. -/
lemma reads_optionalText (s : Option String) :
    Reads (optional readText) (writeOptional writeText s) s :=
  reads_optional s fun text _ => ⟨reads_text text, by simp [writeText]⟩

/-- A field that is missing is read back, whatever it would hold. -/
lemma reads_missing {α : Type} {reader : Reader α} (writer : α → List Char) {o : Option α}
    (h : o = none) : Reads (optional reader) (writeOptional writer o) o := by
  subst h
  exact reads_optional none nofun

/-! ### Records -/

/-- A question without a vector is read back. -/
lemma Question.reads {q : Question} (h : q.embedding = none) (depth : Nat) :
    Reads (Question.readJson (depth + 1)) q.writeJson q := by
  have hfills : Fills (Question.fields depth) {}
      [writeMember "query_str" (writeText q.text), writeMember "embedding"
        (writeOptional (fun v => writeArray (v.map writeFloat32)) q.embedding)]
      { text := some q.text, embedding := some q.embedding } :=
    .field rfl rfl (reads_text q.text) (.field rfl rfl (reads_missing _ h) (.nil _))
  exact hfills.reads (List.cons_ne_nil _ _) rfl

/-- A schema is read back. -/
lemma TableSchema.reads (t : TableSchema) (depth : Nat) :
    Reads (TableSchema.readJson (depth + 1)) t.writeJson t := by
  have hfills : Fills (TableSchema.fields depth) {}
      [writeMember "table_name" (writeText t.name),
        writeMember "context_str" (writeOptional writeText t.context)]
      { name := some t.name, context := some t.context } :=
    .field rfl rfl (reads_text t.name) (.field rfl rfl (reads_optionalText t.context) (.nil _))
  exact hfills.reads (List.cons_ne_nil _ _) rfl

/-- A handle is read back. -/
lemma TableHandle.reads (t : TableHandle) (depth : Nat) :
    Reads (TableHandle.readJson (depth + 1)) t.writeJson t := by
  have hfills : Fills (TableHandle.fields depth) {}
      [writeMember "name" (writeText t.name),
        writeMember "schema" (writeOptional writeText t.qualifier)]
      { name := some t.name, qualifier := some t.qualifier } :=
    .field rfl rfl (reads_text t.name) (.field rfl rfl (reads_optionalText t.qualifier) (.nil _))
  exact hfills.reads (List.cons_ne_nil _ _) rfl

/-- The inner record of a node is read back. -/
lemma SourceNode.reads_node (text : String) (depth : Nat) :
    Reads (SourceNode.readNode (depth + 1)) (writeObject [writeMember "text" (writeText text)])
      text := by
  have hfills : Fills (SourceNode.textField depth) none [writeMember "text" (writeText text)]
      (some text) := .field rfl rfl (reads_text text) (.nil _)
  exact hfills.reads (List.cons_ne_nil _ _) rfl

/-- A node without a score is read back. -/
lemma SourceNode.reads {n : SourceNode} (h : n.score = none) (depth : Nat) :
    Reads (SourceNode.readJson (depth + 2)) n.writeJson n := by
  have hfills : Fills (SourceNode.fields (depth + 1)) {}
      [writeMember "node" (writeObject [writeMember "text" (writeText n.text)]),
        writeMember "score" (writeOptional writeFloat32 n.score)]
      { node := some n.text, score := some n.score } :=
    .field rfl rfl (reads_node n.text depth) (.field rfl rfl (reads_missing _ h) (.nil _))
  exact hfills.reads (List.cons_ne_nil _ _) rfl

/-- An answer without scores, and without floating-point numbers in what is known about it, where at
most `depth` arrays and objects stand in each other. -/
structure Answer.Plain (depth : Nat) (a : Answer) : Prop where
  sources : ∀ node ∈ a.sources, node.score = none
  metadata : ∀ entry ∈ a.metadata.entries, Json.Plain depth entry.2

/-- Such an answer is read back; the answer itself and its members take two levels more. -/
lemma Answer.Plain.reads {depth : Nat} {a : Answer} (h : a.Plain (depth + 2)) :
    Reads (Answer.readJson (depth + 4)) a.writeJson a := by
  have hsources := reads_readArray fun node hnode => SourceNode.reads (h.sources node hnode) depth
  have hmetadata := reads_readMap a.metadata fun entry hentry => (h.metadata entry hentry).reads
  have hfills : Fills (Answer.fields (depth + 3)) {}
      [writeMember "response" (writeOptional writeText a.text),
        writeMember "source_nodes" (writeArray (a.sources.map SourceNode.writeJson)),
        writeMember "metadata" (Json.write (ofDictionary a.metadata))]
      { text := some a.text, sources := some a.sources, metadata := some a.metadata } := by
    rw [ofDictionary, Json.write, writeMembers_eq]
    exact .field rfl rfl (reads_optionalText a.text)
      (.field rfl rfl hsources (.field rfl rfl hmetadata (.nil _)))
  exact hfills.reads (List.cons_ne_nil _ _) rfl

/-- **What is printed is read back.** Questions without a vector, schemas, handles, nodes without a
score, and answers whose nodes have none and whose metadata is free of floating-point numbers: each
is read back from its text as it was, and so printed as the same text again. Metadata may be nested
as deep as the reader goes. -/
theorem printed_roundTrips {depth : Nat} (hdepth : depth + 2 ≤ depthLimit) :
    (∀ q : Question, q.embedding = none → RoundTrips Question.readJson Question.writeJson q)
      ∧ (∀ t, RoundTrips TableSchema.readJson TableSchema.writeJson t)
      ∧ (∀ t, RoundTrips TableHandle.readJson TableHandle.writeJson t)
      ∧ (∀ n : SourceNode, n.score = none → RoundTrips SourceNode.readJson SourceNode.writeJson n)
      ∧ ∀ a : Answer, a.Plain depth → RoundTrips Answer.readJson Answer.writeJson a := by
  refine ⟨fun q hq => .of_reads (Question.reads hq _), fun t => .of_reads (t.reads _),
    fun t => .of_reads (t.reads _), fun n hn => .of_reads (SourceNode.reads hn _), fun a ha => ?_⟩
  -- two of the levels that the reader goes down are the answer and the object of its metadata
  have hlimit : a.Plain (123 + 2) := by
    have hle : depth ≤ 123 + 2 := Nat.le_of_add_le_add_right hdepth
    exact ⟨ha.sources, fun entry hentry => (ha.metadata entry hentry).mono hle⟩
  exact .of_reads hlimit.reads

/-- Characters that are escaped, each in its way, and some that are not. -/
def awkward : String := "\"\\/\x08\x0c\n\r\t\x01\x1f\x7fé😀"

/-- An answer with the integers at both ends. -/
def awkwardAnswer : Answer where
  text := none
  sources := [⟨awkward, none⟩]
  metadata := ⟨[("ends", .array [.integer (-2 ^ 63), .integer (2 ^ 64 - 1), .text awkward]),
    ("rows", .array [ofDictionary ⟨[("key", .null), ("other", .bool true)], by decide⟩,
      .array []])], by decide⟩

/-- Values with awkward texts are read back. -/
theorem awkward_roundTrips :
    100 + 2 ≤ depthLimit
      ∧ RoundTrips Question.readJson Question.writeJson ⟨awkward, none⟩
      ∧ RoundTrips TableSchema.readJson TableSchema.writeJson ⟨awkward, some awkward⟩
      ∧ RoundTrips TableHandle.readJson TableHandle.writeJson ⟨awkward, some ""⟩
      ∧ RoundTrips SourceNode.readJson SourceNode.writeJson ⟨awkward, none⟩
      ∧ awkwardAnswer.Plain 100
      ∧ RoundTrips Answer.readJson Answer.writeJson awkwardAnswer := by
  have hdepth : 100 + 2 ≤ depthLimit := by decide
  have hplain : awkwardAnswer.Plain 100 := by
    refine ⟨List.forall_mem_singleton.mpr rfl,
      List.forall_mem_cons.mpr ⟨.array ?ends, List.forall_mem_singleton.mpr (.array ?rows)⟩⟩
    case ends =>
      exact List.forall_mem_cons.mpr ⟨.integer _ (by decide), List.forall_mem_cons.mpr
        ⟨.integer _ (by decide), List.forall_mem_singleton.mpr (.text _ _)⟩⟩
    case rows =>
      exact List.forall_mem_cons.mpr ⟨.object _ (List.forall_mem_cons.mpr
        ⟨.null _, List.forall_mem_singleton.mpr (.bool _ _)⟩),
        List.forall_mem_singleton.mpr (.array (List.forall_mem_nil _))⟩
  obtain ⟨hquestion, hschema, hhandle, hnode, hanswer⟩ := printed_roundTrips hdepth
  exact ⟨hdepth, hquestion _ rfl, hschema _, hhandle _, hnode _ rfl, hplain, hanswer _ hplain⟩

end AskSql
