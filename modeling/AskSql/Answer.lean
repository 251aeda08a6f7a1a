import AskSql.Json.Record
import AskSql.Json.Printer

/-!
Answers of an engine.

* `SourceNode`: a text that an answer rests on, with an optional score.
* `Answer`: the words of an answer, if there are any, its sources and what is known about it.
* `Answer.sqlQuery`: the statement behind an answer.
* `readJson`, `writeJson`: nodes and answers as JSON text.
-/

namespace AskSql

open Json

/-- What is known about a result or an answer. -/
abbrev Metadata := Dictionary Json

/-- The key under which the statement is recorded. -/
def sqlQueryKey : String := "sql_query"

/-! ### Source nodes -/

/-- A text that an answer rests on. -/
structure SourceNode where
  text : String
  score : Option Float32 := none

namespace SourceNode

/-- The field of a node that holds its text, read on its own. -/
def textField (_depth : Nat) : List (RecordField (Option String)) :=
  [.of "text" false id (fun _ x => some x) readText]

/-- The fields of a scored node that have been read. -/
structure Draft where
  node : Option String := none
  score : Option (Option Float32) := none

/-- Reads what the inner record of a node holds. -/
def readNode (depth : Nat) : Reader String := readRecord textField none id depth

/-- The fields of a scored node. -/
def fields (depth : Nat) : List (RecordField Draft) :=
  [.of "node" false (·.node) (fun d x => { d with node := some x }) (readNode depth),
    .of "score" true (·.score) (fun d x => { d with score := some x }) (optional readFloat32)]

/-- A scored node has a text; its score may be missing. -/
def Draft.finish (d : Draft) : Option SourceNode :=
  d.node.map fun text => ⟨text, d.score.getD none⟩

/-- Reads a scored node. -/
def readJson (depth : Nat) : Reader SourceNode := readRecord fields {} Draft.finish depth

/-- A scored node as JSON text. -/
def writeJson (n : SourceNode) : List Char :=
  writeObject [writeMember "node" (writeObject [writeMember "text" (writeText n.text)]),
    writeMember "score" (writeOptional writeFloat32 n.score)]

end SourceNode

/-! ### Answers -/

/-- An answer. -/
structure Answer where
  /-- The words of the answer; a path that only collects sources has none. -/
  text : Option String := none
  sources : List SourceNode := []
  metadata : Metadata := .empty

namespace Answer

/-- An answer that consists of its words. -/
def ofText (text : String) (metadata : Metadata) : Answer := ⟨some text, [], metadata⟩

/-- The answer with what is known from running its statement, which wins over what the answer
has. -/
def withExecution (a : Answer) (metadata : Metadata) : Answer :=
  { a with metadata := a.metadata.merge metadata }

/-- The statement behind the answer, if it is recorded as a text. -/
def sqlQuery (a : Answer) : Option String := (a.metadata.get? sqlQueryKey).bind Json.text?

/-- The answer as it is shown. -/
def display (a : Answer) : String := a.text.getD "None"

/-- The fields of an answer that have been read. -/
structure Draft where
  text : Option (Option String) := none
  sources : Option (List SourceNode) := none
  metadata : Option Metadata := none

/-- The fields of an answer. -/
def fields (depth : Nat) : List (RecordField Draft) :=
  [.of "response" false (·.text) (fun d x => { d with text := some x }) (optional readText),
    .of "source_nodes" true (·.sources) (fun d x => { d with sources := some x })
      (readArray (deeper SourceNode.readJson depth)),
    .of "metadata" true (·.metadata) (fun d x => { d with metadata := some x })
      (readMap (deeper readValue depth))]

/-- Every field of an answer may be missing. -/
def Draft.finish (d : Draft) : Option Answer :=
  some ⟨d.text.getD none, d.sources.getD [], d.metadata.getD .empty⟩

/-- Reads an answer. -/
def readJson (depth : Nat) : Reader Answer := readRecord fields {} Draft.finish depth

/-- An answer as JSON text. -/
def writeJson (a : Answer) : List Char :=
  writeObject [writeMember "response" (writeOptional writeText a.text),
    writeMember "source_nodes" (writeArray (a.sources.map SourceNode.writeJson)),
    writeMember "metadata" (Json.write (ofDictionary a.metadata))]

end Answer

end AskSql
