import AskSql.Table

/-!
Settings of an engine, as they are kept in a JSON file.

* `EngineSettings`: whether answers are phrased, the tables, the notes on them and a heading.
* `EngineSettings.ofText`: settings from JSON text.
* `EngineSettings.tableRefs`: the tables as references, up to the first one that is none.
-/

namespace AskSql

open Json

/-- Settings of an engine. -/
structure EngineSettings where
  /-- Whether results are phrased as answers. -/
  synthesize : Bool := true
  /-- The tables as they were written, to be checked by `tableRefs`. -/
  tables : Option (List Json) := none
  /-- Notes on tables by name. -/
  notes : Dictionary String := .empty
  /-- What stands above tables that are picked for each question. -/
  heading : Option String := none

namespace EngineSettings

/-- The settings that have been read. -/
structure Draft where
  synthesize : Option Bool := none
  tables : Option (Option (List Json)) := none
  notes : Option (Dictionary String) := none
  heading : Option (Option String) := none

/-- The settings. -/
def fields (depth : Nat) : List (RecordField Draft) :=
  [.of "synthesize_response" true (·.synthesize) (fun d x => { d with synthesize := some x })
      readBool,
    .of "tables" true (·.tables) (fun d x => { d with tables := some x })
      (optional (readArray (deeper readValue depth))),
    .of "context_query_kwargs" true (·.notes) (fun d x => { d with notes := some x })
      (readMap (deeper (fun _ => readText) depth)),
    .of "context_str_prefix" true (·.heading) (fun d x => { d with heading := some x })
      (optional readText)]

/-- Every setting may be missing. -/
def Draft.finish (d : Draft) : Option EngineSettings :=
  some ⟨d.synthesize.getD true, d.tables.getD none, d.notes.getD .empty, d.heading.getD none⟩

/-- Reads settings. -/
def readJson (depth : Nat) : Reader EngineSettings := readRecord fields {} Draft.finish depth

/-- Settings from JSON text. -/
def ofText (s : String) : Except Failure EngineSettings :=
  match readAll (readJson depthLimit) s.toList with
  | some settings => .ok settings
  | none => .error (.json "the settings of the engine cannot be read")

/-- The tables as references. -/
def tableRefs (settings : EngineSettings) : Except Failure (Option (List TableRef)) :=
  match settings.tables with
  | none => .ok none
  | some values => (values.mapM TableRef.ofJson).map some

end EngineSettings

end AskSql
