import AskSql.Embedding
import AskSql.Json.Record

/-!
Questions that are put to an engine.

* `Question`: the words of a question, and its vector if that is known in advance.
* `Question.readJson`, `Question.writeJson`: questions as JSON text.
-/

namespace AskSql

/-- A question. -/
structure Question where
  text : String
  /-- The vector of the question, if it is known in advance. -/
  embedding : Option Embedding := none

namespace Question

open Json

/-- The fields of a question that have been read. -/
structure Draft where
  text : Option String := none
  embedding : Option (Option Embedding) := none

/-- The fields of a question. -/
def fields (depth : Nat) : List (RecordField Draft) :=
  [.of "query_str" false (·.text) (fun d x => { d with text := some x }) readText,
    .of "embedding" true (·.embedding) (fun d x => { d with embedding := some x })
      (optional (readArray (deeper (fun _ => readFloat32) depth)))]

/-- A question has words; its vector may be missing. -/
def Draft.finish (d : Draft) : Option Question :=
  d.text.map fun text => ⟨text, d.embedding.getD none⟩

/-- Reads a question. -/
def readJson (depth : Nat) : Reader Question := readRecord fields {} Draft.finish depth

/-- A question as JSON text. -/
def writeJson (q : Question) : List Char :=
  writeObject [writeMember "query_str" (writeText q.text),
    writeMember "embedding" (writeOptional (fun v => writeArray (v.map writeFloat32)) q.embedding)]

end Question

end AskSql
