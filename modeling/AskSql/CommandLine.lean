import AskSql.Client
import AskSql.CommandLine.Arguments
import AskSql.Engine.Container
import AskSql.Engine.Options
import AskSql.Settings.Engine
import AskSql.Sqlite
import AskSql.Sqlite.Location

/-!
A run of the command line.

The database is opened first. A statement is then run as it is and needs no key; for a question
the key is looked for, then the settings of the engine are read, then the tables are settled, all
before any model is asked.

* `Host`: what a run reaches outside itself.
* `Problem`: why a run ends without an answer, and how that is told.
* `plan`: what is to be done for some arguments.
* `Outcome`, `run`: what a run leaves behind.
-/

namespace AskSql.CommandLine

variable {σ : Type}

/-- What a run reaches outside itself. -/
structure Host (σ : Type) where
  /-- The database at a place, if it can be opened. -/
  databaseAt : Sqlite.Location → Option (Database σ)
  /-- The text of a file. -/
  fileText : String → Except Failure String
  /-- The value of an environment variable. -/
  environment : String → Option String
  transport : Http.Transport σ

/-- Opens the database of a name. -/
def Host.openDatabase (host : Host σ) (name : String) : Except Failure (Database σ) :=
  match Sqlite.Location.ofName name with
  | .error fault => .error (.database (.notOpened fault.message))
  | .ok place =>
      match host.databaseAt place with
      | some db => .ok db
      | none => .error (.database (.notOpened ("unable to open database file: " ++ name)))

/-! ### Problems -/

/-- Why a run ends without an answer. -/
inductive Problem where
  | database (path : String) (reason : Failure)
  | settings (path : String) (reason : Failure)
  | failure (reason : Failure)

/-- What a failure wraps, if it only passes on the reason that somebody else gave. -/
def wrapped : Failure → List String
  | .io reason => [reason]
  | .json reason => [reason]
  | _ => []

/-- The causes of a problem, below its heading. -/
def causeLines : List String → String
  | [] => ""
  | [cause] => "\n\nCaused by:\n    " ++ cause
  | causes =>
      "\n\nCaused by:" ++ String.join (causes.mapIdx fun i cause =>
        "\n    " ++ toString i ++ ": " ++ cause)

namespace Problem

/-- The heading of a problem. -/
def heading : Problem → String
  | database path _ => "Failed to open " ++ path
  | settings path _ => "Failed to load engine config " ++ path
  | failure reason => reason.message

/-- What led to a problem. -/
def causes : Problem → List String
  | database _ reason => reason.message :: wrapped reason
  | settings _ reason => reason.message :: wrapped reason
  | failure reason => wrapped reason

/-- A problem as it is told. -/
def report (p : Problem) : String := "Error: " ++ p.heading ++ causeLines p.causes ++ "\n"

end Problem

/-! ### The plan of a run -/

/-- The tables of the arguments, else those of the settings. -/
def chosenTables (arguments : Arguments) (settings : EngineSettings) :
    Except Failure (Option (List TableRef)) :=
  if arguments.tables.isEmpty then settings.tableRefs
  else .ok (some (arguments.tables.map .named))

/-- The tables to pick from for each question: the chosen ones, or every usable table if none is
chosen, with the notes on them. -/
def candidates (db : Database σ) (tables : Option (List TableRef)) (notes : Dictionary String) :
    Session σ (List TableSchema) := do
  let names ← match tables with
    | some (table :: tables) => pure ((table :: tables).map TableRef.tableName)
    | _ => db.usableTables
  return names.map fun name => ⟨name, notes.get? name⟩

/-- The options of the engine. -/
def engineOptions (arguments : Arguments) (settings : EngineSettings) : EngineOptions where
  notes := settings.notes
  synthesize := settings.synthesize && arguments.synthesize

/-- The engine: with a heading in the settings it picks tables for each question. -/
def engine (db : Database σ) (models : Models σ) (arguments : Arguments)
    (settings : EngineSettings) (tables : Option (List TableRef)) : Session σ (TableEngine σ) :=
  let options := engineOptions arguments settings
  match settings.heading with
  | none => Session.ofExcept (options.nlSql db models tables)
  | some heading => do
      let schemas ← candidates db tables settings.notes
      let index ← TableIndex.build db models.embedding schemas
      let retriever := TableIndex.retriever index models.embedding arguments.topK
      Session.ofExcept (options.overRetriever db models retriever (some heading))

/-- The settings of the engine, the usual ones without a file. -/
def loadSettings (host : Host σ) : Option String → Except Problem EngineSettings
  | none => .ok {}
  | some path =>
      ((host.fileText path).bind EngineSettings.ofText).mapError (Problem.settings path)

/-- What is to be done for some arguments. -/
def plan (host : Host σ) (arguments : Arguments) : Except Problem (Session σ Answer) := do
  let db ← (host.openDatabase arguments.database).mapError (Problem.database arguments.database)
  let question : Question := { text := arguments.question }
  if arguments.direct then return DirectEngine.ask { database := db } question
  else
    let clients ← (ClientSettings.ofEnvironment host.environment arguments.apiKey).mapError
      Problem.failure
    let settings ← loadSettings host arguments.settings
    let tables ← (chosenTables arguments settings).mapError Problem.failure
    return do
      let engine ← engine db (.ofSettings clients host.transport) arguments settings tables
      engine.ask arguments.mode question

/-! ### What a run leaves behind -/

/-- What a run leaves behind. -/
structure Outcome where
  code : Nat
  /-- What is written to the standard output. -/
  output : String := ""
  /-- What is written to the standard error output. -/
  complaint : String := ""

/-- The name and the version. -/
def versionText : String := "nlsql 0.1.0\n"

/-- How the arguments are written. -/
def usageText : String :=
  "Usage: nlsql [OPTIONS] --db <DB> <QUESTION>\n"

/-- What every argument means, a line each. -/
def helpLines : List String :=
  ["Ask natural-language questions against a SQLite database",
    "",
    "Usage: nlsql [OPTIONS] --db <DB> <QUESTION>",
    "",
    "Arguments:",
    "  <QUESTION>  The question in natural language (or SQL with --raw-sql)",
    "",
    "Options:",
    "  -d, --db <DB>            Path to the SQLite database file",
    "  -t, --tables <TABLES>    " ++
      "Comma-separated tables to describe to the model (default: all tables)",
    "  -c, --config <CONFIG>    " ++
      "JSON engine config (tables, context_query_kwargs, synthesize_response)",
    "      --no-synthesis       Print the raw SQL result instead of a synthesized answer",
    "      --sync               Use the blocking query path instead of the async one",
    "      --raw-sql            Run the question as SQL without calling the model",
    "      --top-k <TOP_K>      " ++
      "Tables retrieved per question when the config sets context_str_prefix [default: 1]",
    "      --api-key <API_KEY>  OpenAI API key (or set OPENAI_API_KEY env var)",
    "  -h, --help               Print help",
    "  -V, --version            Print version"]

/-- What every argument means. -/
def helpText : String := String.join (helpLines.map fun line => line ++ "\n")

namespace Outcome

/-- The answer, and the statement behind it if it is recorded. -/
def ofAnswer (answer : Answer) : Outcome where
  code := 0
  output := answer.display ++ "\n" ++ match answer.sqlQuery with
    | some sql => "\nSQL: " ++ sql ++ "\n"
    | none => ""

/-- A problem ends with code one. -/
def ofProblem (problem : Problem) : Outcome where
  code := 1
  complaint := problem.report

/-- Words that are no arguments end with code two, the texts that were wished for with code zero. -/
def ofNotice : Notice → Outcome
  | .usage => { code := 2, complaint := usageText }
  | .help => { code := 0, output := helpText }
  | .version => { code := 0, output := versionText }

end Outcome

/-- Runs a plan. -/
def carryOut (host : Host σ) (arguments : Arguments) (state : σ) : Outcome × σ :=
  match plan host arguments with
  | .error problem => (.ofProblem problem, state)
  | .ok session =>
      match session state with
      | (.ok answer, state) => (.ofAnswer answer, state)
      | (.error reason, state) => (.ofProblem (.failure reason), state)

/-- Runs the command line. -/
def run (host : Host σ) (words : List String) (state : σ) : Outcome × σ :=
  match Arguments.parse words with
  | .error notice => (.ofNotice notice, state)
  | .ok arguments => carryOut host arguments state

end AskSql.CommandLine
