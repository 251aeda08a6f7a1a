import AskSql.Json.Record
import AskSql.Session

/-!
Tables as callers refer to them.

* `TableSchema`: the name of a table with an optional description written by a person.
* `TableHandle`: a table with an optional qualifier, the schema that it belongs to.
* `TableRef`: either a name or a handle; both come down to a name.
* `TableRef.ofJson`: a reference from a loose JSON value, a text or an object with a name.
-/

namespace AskSql

open Json

/-! ### Schemas -/

/-- The name of a table with an optional description. -/
structure TableSchema where
  name : String
  context : Option String := none
deriving DecidableEq, Repr

namespace TableSchema

/-- The fields of a schema that have been read. -/
structure Draft where
  name : Option String := none
  context : Option (Option String) := none

/-- The fields of a schema. -/
def fields (_depth : Nat) : List (RecordField Draft) :=
  [.of "table_name" false (·.name) (fun d x => { d with name := some x }) readText,
    .of "context_str" true (·.context) (fun d x => { d with context := some x })
      (optional readText)]

/-- A schema has a name; its description may be missing. -/
def Draft.finish (d : Draft) : Option TableSchema :=
  d.name.map fun name => ⟨name, d.context.getD none⟩

/-- Reads a schema. -/
def readJson (depth : Nat) : Reader TableSchema := readRecord fields {} Draft.finish depth

/-- A schema as JSON text. -/
def writeJson (t : TableSchema) : List Char :=
  writeObject [writeMember "table_name" (writeText t.name),
    writeMember "context_str" (writeOptional writeText t.context)]

end TableSchema

/-! ### Handles -/

/-- A table with an optional qualifier, the schema that it belongs to. -/
structure TableHandle where
  name : String
  qualifier : Option String := none
deriving DecidableEq, Repr

namespace TableHandle

/-- The fields of a handle that have been read. -/
structure Draft where
  name : Option String := none
  qualifier : Option (Option String) := none

/-- The fields of a handle. -/
def fields (_depth : Nat) : List (RecordField Draft) :=
  [.of "name" false (·.name) (fun d x => { d with name := some x }) readText,
    .of "schema" true (·.qualifier) (fun d x => { d with qualifier := some x })
      (optional readText)]

/-- A handle has a name; its qualifier may be missing. -/
def Draft.finish (d : Draft) : Option TableHandle :=
  d.name.map fun name => ⟨name, d.qualifier.getD none⟩

/-- Reads a handle. -/
def readJson (depth : Nat) : Reader TableHandle := readRecord fields {} Draft.finish depth

/-- A handle as JSON text. -/
def writeJson (t : TableHandle) : List Char :=
  writeObject [writeMember "name" (writeText t.name),
    writeMember "schema" (writeOptional writeText t.qualifier)]

/-- The handle that the members of an object describe: the name is a text, and the schema is a text,
null or missing. -/
def ofMembers? (members : List (String × Json)) : Option TableHandle :=
  match members.lookup "name", members.lookup "schema" with
  | some (.text name), none => some ⟨name, none⟩
  | some (.text name), some .null => some ⟨name, none⟩
  | some (.text name), some (.text s) => some ⟨name, some s⟩
  | _, _ => none

end TableHandle

/-! ### References -/

/-- A table by its name or by a handle. -/
inductive TableRef where
  | named (name : String)
  | handle (table : TableHandle)
deriving DecidableEq, Repr

namespace TableRef

/-- The name that a reference comes down to. -/
def tableName : TableRef → String
  | named name => name
  | handle table => table.name

/-- The reference that a JSON value stands for. -/
def ofJson (value : Json) : Except Failure TableRef :=
  match value with
  | .text s => .ok (named s)
  | .object members =>
      match TableHandle.ofMembers? members with
      | some table => .ok (handle table)
      | none => .error (.configuration (.unknownTableType value))
  | value => .error (.configuration (.unknownTableType value))

end TableRef

end AskSql
