import AskSql.Json.Reader

/-!
Reading records from JSON text.

A record is written as an object with its fields as members in any order, or as an array of its
fields in their order. Members of other names are passed over, whatever they hold; a field may
not come twice. In an array the last fields may be left out if they are marked so, and nothing
may follow the last one. Which fields may be missing from an object is for the record to say when
all members are read.

* `RecordField`: how a field is read into a draft of the record.
* `readRecord`: reads a record in either form.
* `readString`, `readBool`, `readFloat32`, `optional`, `readArray`, `readMap`: what fields hold.
-/

namespace AskSql.Json

/-! ### What fields hold -/

/-- Reads a truth value. -/
def readBool (s : List Char) : Option (Bool × List Char) :=
  match skipSpace s with
  | 't' :: rest => (readWord ['r', 'u', 'e'] rest).map fun read => (true, read.2)
  | 'f' :: rest => (readWord ['a', 'l', 's', 'e'] rest).map fun read => (false, read.2)
  | _ => none

/-- A number of 32 bits from a number as it is written: an integer is rounded once, any other number
is a floating-point number of 64 bits first. -/
def toFloat32? : Json → Option Float32
  | integer n => some (if n < 0 then -(Float32.ofScientific n.natAbs false 0)
      else Float32.ofScientific n.natAbs false 0)
  | real x => some x.toFloat32
  | _ => none

/-- Reads a number of 32 bits. -/
def readFloat32 (s : List Char) : Option (Float32 × List Char) := do
  let (n, s) ← readNumber s
  let x ← toFloat32? n
  return (x, s)

/-- Reads a value that may be null instead. -/
def optional {α : Type} (reader : Reader α) (s : List Char) : Option (Option α × List Char) :=
  match skipSpace s with
  | 'n' :: rest => (readWord ['u', 'l', 'l'] rest).map fun read => (none, read.2)
  | s => (reader s).map fun read => (some read.1, read.2)

/-- Reads an array of items; `inner` is missing where no array may stand. -/
def readArray {α : Type} (inner : Option (Reader α)) (s : List Char) :
    Option (List α × List Char) :=
  match skipSpace s with
  | '[' :: rest => inner.bind fun inner => readList ']' inner rest
  | _ => none

/-- Reads an object with values of one kind; of equal keys the last one stays. -/
def readMap {α : Type} (inner : Option (Reader α)) (s : List Char) :
    Option (Dictionary α × List Char) :=
  match skipSpace s with
  | '\x7b' :: rest =>
      inner.bind fun inner =>
        (readList '\x7d' (readMember readText inner) rest).map fun read =>
          (Dictionary.ofList read.1, read.2)
  | _ => none

/-! ### Records -/

/-- A field of a record of which a draft of type `δ` has been read. -/
structure RecordField (δ : Type) where
  name : String
  /-- Whether the field may be left out at the end of an array. -/
  omissible : Bool
  /-- Whether the draft has the field already. -/
  isRead : δ → Bool
  /-- Reads the field into the draft. -/
  read : δ → Reader δ

variable {δ : Type}

/-- A field that is kept in one place of the draft. -/
def RecordField.of {α : Type} (name : String) (omissible : Bool) (get : δ → Option α)
    (set : δ → α → δ) (reader : Reader α) : RecordField δ where
  name := name
  omissible := omissible
  isRead draft := (get draft).isSome
  read draft s := (reader s).map fun read => (set draft read.1, read.2)

/-- Reads the value of one member into the draft. -/
def readNamed (fields : List (RecordField δ)) (draft : δ) (name : String) : Reader δ :=
  match fields.find? (fun field => field.name == name) with
  | none => fun s => (skipValue s).map fun read => (draft, read.2)
  | some field => if field.isRead draft then fun _ => none else field.read draft

/-- Reads the members of an object into the draft, at least one and at most `n`. -/
def readMembers (fields : List (RecordField δ)) : Nat → δ → Reader δ
  | 0, _ => fun _ => none
  | n + 1, draft => fun s => do
      let (name, s) ← readText s
      match skipSpace s with
      | ':' :: s => do
          let (draft, s) ← readNamed fields draft name s
          match skipSpace s with
          | ',' :: s => readMembers fields n draft s
          | '\x7d' :: s => return (draft, s)
          | _ => none
      | _ => none

/-- Reads the items of an array into the draft, after the first one with a comma before each. -/
def readPositional (first : Bool) : List (RecordField δ) → δ → Reader δ
  | [], draft => fun s =>
      match skipSpace s with
      | ']' :: s => some (draft, s)
      | _ => none
  | field :: fields, draft => fun s =>
      match skipSpace s with
      | ']' :: s => if (field :: fields).all (·.omissible) then some (draft, s) else none
      | c :: rest =>
          if first then (field.read draft (c :: rest)).bind fun read =>
            readPositional false fields read.1 read.2
          else if c = ',' then (field.read draft rest).bind fun read =>
            readPositional false fields read.1 read.2
          else none
      | [] => none

/-- Reads a record in either form. The fields are given for the depth that is left inside it, and
the record may be refused when all of it is read. -/
def readRecord {α : Type} (fields : Nat → List (RecordField δ)) (draft : δ) (finish : δ → Option α)
    (depth : Nat) (s : List Char) : Option (α × List Char) := do
  match depth, skipSpace s with
  | depth + 1, '\x7b' :: s =>
      let (draft, s) ← match skipSpace s with
        | '\x7d' :: s => some (draft, s)
        | s => readMembers (fields depth) s.length draft s
      let x ← finish draft
      return (x, s)
  | depth + 1, '[' :: s =>
      let (draft, s) ← readPositional true (fields depth) draft s
      let x ← finish draft
      return (x, s)
  | _, _ => none

/-- The reader of values inside one more array or object; missing where none may stand. -/
def deeper {α : Type} (reader : Nat → Reader α) : Nat → Option (Reader α)
  | 0 => none
  | depth + 1 => some (reader depth)

end AskSql.Json
