import AskSql.CommandLine
import AskSql.Settings.EnvFile
import AskSql.Snapshot

/-!
The program.

A database is a file that holds a snapshot. Nothing is sent over the network, so only the key of the
offline clients leads to completions. Environment variables come from the process and from the file
`.env` of the working directory or of the nearest directory above it that has one.
-/

namespace AskSql.Program

/-- Reads a file, if it can be read. -/
def readFileIfAny (path : String) : IO (Except String String) := do
  try return .ok (← IO.FS.readFile path)
  catch e => return .error (toString e)

/-- The directory above a directory. -/
def above (directory : List String) : List String := directory.dropLast

/-- The text of the nearest `.env` file, from a directory upwards. -/
def nearestEnvFile : Nat → List String → IO String
  | 0, _ => return ""
  | n + 1, directory => do
      match ← readFileIfAny ("/".intercalate (directory ++ [".env"])) with
      | .ok text => return text
      | .error _ => nearestEnvFile n (above directory)

/-- The variables of the process among some names. -/
def processVariables (names : List String) : IO (Dictionary String) := do
  let found ← names.mapM fun name => do
    let value ← IO.getEnv name
    return value.toList.map fun value => (name, value)
  return .ofList found.flatten

/-- The environment of a run. -/
def loadEnvironment : IO (Dictionary String) := do
  let directory := (toString (← IO.currentDir)).splitOn "/"
  let file ← nearestEnvFile (directory.length + 1) directory
  let found ← processVariables (ClientSettings.variableNames ++ EnvFile.mentioned file)
  return EnvFile.load found file

/-! ### Databases -/

/-- The name of a path, if it is a text. -/
def nameOf (path : Sqlite.Path) : Option String := String.fromUTF8? ⟨path.toArray⟩

/-- What a path leads to. -/
def entryAt (path : Sqlite.Path) : IO Sqlite.Entry :=
  match nameOf path with
  | none => return .missing
  | some name => do
      try
        let handle ← IO.FS.Handle.mk name .read
        discard (handle.read 1)
        return .file
      catch
        | .inappropriateType .. => return .directory
        | _ => return .missing

/-- The files of the machine. -/
def files : IO (Sqlite.Files IO) := do
  return { workingDirectory := .ofString (toString (← IO.currentDir)), entryAt := entryAt }

/-- A database without tables. -/
def newDatabase : Database Unit := (Snapshot.connection {}).database

/-- A file that is no database. -/
def unreadableDatabase : Database Unit :=
  Sqlite.Connection.unreadable {
    schema := .failing (.database .notADatabase)
    execute := fun _ => .fail (.database .notADatabase) }

/-- The database that the text of a file describes, one without tables if there is no text. -/
def databaseOfText (text : String) : Database Unit :=
  if text = "" then newDatabase
  else
    match Snapshot.ofText text with
    | some snapshot => snapshot.connection.database
    | none => unreadableDatabase

/-- The database that has been found. -/
def openFound : Sqlite.Found → IO (Database Unit)
  | .new => return newDatabase
  | .file path => do
      match ← (nameOf path).mapM readFileIfAny with
      | some (.ok text) => return databaseOfText text
      | _ => return unreadableDatabase

/-- The database of a name, if it can be opened. -/
def findDatabase (name : String) : IO (Option (Database Unit)) :=
  match Sqlite.Location.ofName name with
  | .error _ => return none
  | .ok place => do
      match ← place.find (← files) with
      | some found => return some (← openFound found)
      | none => return none

/-! ### The host of a run -/

/-- The text of a file, if it can be read. -/
def settingsText (path : String) : IO (Except Failure String) := do
  match ← readFileIfAny path with
  | .ok text => return .ok text
  | .error reason => return .error (.io reason)

/-- The host of a run, with all that the arguments name looked up. -/
def hostOf (arguments : Option CommandLine.Arguments) : IO (CommandLine.Host Unit) := do
  let environment ← loadEnvironment
  let database ← findDatabase ((arguments.map (·.database)).getD "")
  let settings ← settingsText ((arguments.bind (·.settings)).getD "")
  return {
    databaseAt := fun _ => database
    fileText := fun _ => settings
    environment := environment.get?
    transport := .unreachable "no network" }

/-- Runs the command line. -/
def runWords (words : List String) : IO CommandLine.Outcome := do
  let host ← hostOf (CommandLine.Arguments.parse words).toOption
  return (CommandLine.run host words ()).1

end AskSql.Program

/-- Runs the command line and writes down what it leaves behind. -/
def main (words : List String) : IO UInt32 := do
  let outcome ← AskSql.Program.runWords words
  IO.print outcome.output
  IO.eprint outcome.complaint
  return outcome.code.toUInt32
