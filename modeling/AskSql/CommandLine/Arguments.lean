import AskSql.Decimal.Numeral
import AskSql.Retriever
import AskSql.Text.Search

/-!
The arguments of the command line.

The words are read from left to right, and whatever ends the reading first decides: a mistake, or
a wish for the help or for the version. A value stands in the word of its option or in the next
one. In a word of its own it may not look like an option, and a single dash does not. After two
dashes every word stands for itself.

* `Arguments`: what is asked for.
* `Notice`: why nothing is run.
* `Setting`, `Switch`: the options with a value and those without one.
* `Arguments.parse`: the arguments of a list of words.
-/

namespace AskSql.CommandLine

/-- What is asked for. -/
structure Arguments where
  question : String
  /-- The path of the database. -/
  database : String
  /-- The tables to describe; without any the settings decide. -/
  tables : List String := []
  /-- The path of the settings of the engine. -/
  settings : Option String := none
  /-- Whether the result is phrased as an answer, if the settings agree. -/
  synthesize : Bool := true
  mode : CallMode := .async
  /-- Whether the question is a statement to be run as it is. -/
  direct : Bool := false
  topK : Nat := TableIndex.defaultTopK
  apiKey : Option String := none
deriving DecidableEq, Repr

/-- Why nothing is run. -/
inductive Notice where
  /-- The words are no arguments. -/
  | usage
  | help
  | version
deriving DecidableEq, Repr

/-! ### Options and what they change -/

/-- The options with a value. -/
inductive Setting where
  | database
  | tables
  | settings
  | topK
  | apiKey
deriving DecidableEq, Repr

/-- The options without a value. -/
inductive Switch where
  | noSynthesis
  | blocking
  | direct
  | help
  | version
deriving DecidableEq, Repr

/-- An option. -/
abbrev Flag := Setting ⊕ Switch

/-- The options by their long names. -/
def longNames : List (String × Flag) :=
  [("db", .inl .database), ("tables", .inl .tables), ("config", .inl .settings),
    ("top-k", .inl .topK), ("api-key", .inl .apiKey), ("no-synthesis", .inr .noSynthesis),
    ("sync", .inr .blocking), ("raw-sql", .inr .direct), ("help", .inr .help),
    ("version", .inr .version)]

/-- The options by their short names. -/
def shortNames : List (Char × Flag) :=
  [('d', .inl .database), ('t', .inl .tables), ('c', .inl .settings), ('h', .inr .help),
    ('V', .inr .version)]

/-- The arguments that have been read. -/
structure Draft where
  question : Option String := none
  database : Option String := none
  tables : List String := []
  settings : Option String := none
  topK : Option Nat := none
  apiKey : Option String := none
  noSynthesis : Bool := false
  blocking : Bool := false
  direct : Bool := false

/-- A value for a place that holds none yet. -/
def once {α : Type} (place : Option α) (value : α) : Except Notice (Option α) :=
  if place.isSome then .error .usage else .ok (some value)

/-- A switch that has not been set yet. -/
def switchOn (place : Bool) : Except Notice Bool :=
  if place then .error .usage else .ok true

/-- A path, which is not empty. -/
def readPath (value : String) : Except Notice String :=
  if value = "" then .error .usage else .ok value

/-- The greatest number that may be given. -/
def countLimit : Nat := 0xFFFFFFFFFFFFFFFF

/-- A number of tables: digits, with a plus sign before them or without one. -/
def readCount (value : String) : Except Notice Nat :=
  let digits := match value.toList with
    | '+' :: rest => rest
    | s => s
  let n := Decimal.digitsValue digits
  if digits ≠ [] ∧ digits.all Char.isDigit ∧ n ≤ countLimit then .ok n else .error .usage

/-- The names of a list with commas between them. -/
def readNames (value : String) : List String :=
  (Text.pieces [','] value.toList).map String.ofList

namespace Draft

/-- Takes a value for an option. -/
def set (d : Draft) (setting : Setting) (value : String) : Except Notice Draft :=
  match setting with
  | .database => do
      let path ← readPath value
      return { d with database := ← once d.database path }
  | .tables => return { d with tables := d.tables ++ readNames value }
  | .settings => do
      let path ← readPath value
      return { d with settings := ← once d.settings path }
  | .topK => do
      let n ← readCount value
      return { d with topK := ← once d.topK n }
  | .apiKey => return { d with apiKey := ← once d.apiKey value }

/-- Takes an option without a value. -/
def turnOn (d : Draft) : Switch → Except Notice Draft
  | .noSynthesis => return { d with noSynthesis := ← switchOn d.noSynthesis }
  | .blocking => return { d with blocking := ← switchOn d.blocking }
  | .direct => return { d with direct := ← switchOn d.direct }
  | .help => .error .help
  | .version => .error .version

/-- Takes a word that stands for itself. -/
def ask (d : Draft) (word : String) : Except Notice Draft :=
  return { d with question := ← once d.question word }

/-- The arguments; a question and a database have to be there. -/
def finish (d : Draft) : Except Notice Arguments :=
  match d.question, d.database with
  | some question, some database =>
      .ok {
        question := question
        database := database
        tables := d.tables
        settings := d.settings
        synthesize := !d.noSynthesis
        mode := if d.blocking then .blocking else .async
        direct := d.direct
        topK := d.topK.getD TableIndex.defaultTopK
        apiKey := d.apiKey }
  | _, _ => .error .usage

end Draft

/-! ### Words -/

/-- Whether a word looks like an option. -/
def looksLikeOption (word : String) : Bool :=
  match word.toList with
  | '-' :: _ :: _ => true
  | _ => false

/-- What a word leaves: an option that waits for its value, if there is one, and the draft. -/
abbrev Step := Option Setting × Draft

/-- Reads a word after its two dashes: a name, and a value after an equals sign. -/
def readLong (d : Draft) (word : List Char) : Except Notice Step :=
  let (name, value) := match Text.splitAtFirst ['='] word with
    | some (name, value) => (name, some (String.ofList value))
    | none => (word, none)
  match longNames.lookup (String.ofList name), value with
  | some (.inl setting), some value => return (none, ← d.set setting value)
  | some (.inl setting), none => .ok (some setting, d)
  | some (.inr switch), none => return (none, ← d.turnOn switch)
  | _, _ => .error .usage

/-- Reads a word after its dash: short names, the value of the last one possibly in the same
word. -/
def readShort (d : Draft) : List Char → Except Notice Step
  | [] => .ok (none, d)
  | c :: rest =>
      match shortNames.lookup c with
      | none => .error .usage
      | some (.inr switch) => do
          let d ← d.turnOn switch
          readShort d rest
      | some (.inl setting) =>
          match rest with
          | [] => .ok (some setting, d)
          | '=' :: value => return (none, ← d.set setting (String.ofList value))
          | value => return (none, ← d.set setting (String.ofList value))

/-- Reads words, the first of them as the value of an option that waits for it. -/
def readWords : Option Setting → Draft → List String → Except Notice Draft
  | none, d, [] => .ok d
  | some _, _, [] => .error .usage
  | some setting, d, word :: words =>
      if looksLikeOption word then .error .usage
      else do
        let d ← d.set setting word
        readWords none d words
  | none, d, word :: words =>
      match word.toList with
      | ['-', '-'] => words.foldlM Draft.ask d
      | '-' :: '-' :: name => do
          let (waiting, d) ← readLong d name
          readWords waiting d words
      | '-' :: c :: rest => do
          let (waiting, d) ← readShort d (c :: rest)
          readWords waiting d words
      | _ => do
          let d ← d.ask word
          readWords none d words

/-- The arguments of a list of words. -/
def Arguments.parse (words : List String) : Except Notice Arguments := do
  let d ← readWords none {} words
  d.finish

end AskSql.CommandLine
