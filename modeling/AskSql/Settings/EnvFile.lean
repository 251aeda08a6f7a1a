import AskSql.Dictionary
import AskSql.Text.Alphanumeric
import AskSql.Text.Blank
import AskSql.Text.Search

/-!
Files of environment variables, a line `NAME=value` for each.

Blank lines and lines that start with `#` are skipped, and `export` may stand before the name. A
value may be put between single quotes, where every character stands for itself, or between
double quotes; outside single quotes a backslash escapes, and `$NAME` or a name in curly brackets
after the dollar sign is replaced by a value that is known already. After a blank outside quotes
only a comment may follow. A variable that is set stays what it is, and a line that cannot be
read ends the file.

* `Value`: where the reader of a value stands.
* `readValue`: the value on a line.
* `readLine`: a name and its value.
* `valueIn`: the value of a name in an environment.
* `load`: the variables after a file has been read.
-/

namespace AskSql.EnvFile

/-- Where the reader of a value stands. The flag tells whether double quotes are open. -/
inductive Place where
  | plain
  | single
  | double
  | escaped (quoted : Bool)
  | name (quoted : Bool) (read : List Char)
  | braced (quoted : Bool) (read : List Char)
  /-- After a blank, where only a comment may follow. -/
  | ending

/-- The place after a construct inside or outside double quotes. -/
def Place.back (quoted : Bool) : Place := if quoted then .double else .plain

/-- What a backslash and a character stand for. -/
def unescape (c : Char) : Option Char :=
  if c = '\\' ∨ c = '\'' ∨ c = '"' ∨ c = '$' ∨ c = ' ' then some c
  else if c = 'n' then some '\n'
  else none

/-- Whether a character may belong to a name after a dollar sign. -/
def isNamePart (c : Char) : Bool := Text.isAlphanumeric c

/-- The value that the characters stand for, read from a place; `lookup` gives the values that are
known already. -/
def readValue (lookup : List Char → List Char) : Place → List Char → Option (List Char)
  | .plain, [] => some []
  | .ending, [] => some []
  | .escaped false, [] => some []
  | .name false read, [] => some (lookup read)
  | _, [] => none
  | .plain, c :: rest =>
      if c = '$' then readValue lookup (.name false []) rest
      else if c = '\'' then readValue lookup .single rest
      else if c = '"' then readValue lookup .double rest
      else if c = '\\' then readValue lookup (.escaped false) rest
      else if c = ' ' ∨ c = '\t' then readValue lookup .ending rest
      else (readValue lookup .plain rest).map (c :: ·)
  | .single, c :: rest =>
      if c = '\'' then readValue lookup .plain rest
      else (readValue lookup .single rest).map (c :: ·)
  | .double, c :: rest =>
      if c = '$' then readValue lookup (.name true []) rest
      else if c = '"' then readValue lookup .plain rest
      else if c = '\\' then readValue lookup (.escaped true) rest
      else (readValue lookup .double rest).map (c :: ·)
  | .escaped quoted, c :: rest =>
      match unescape c with
      | some c => (readValue lookup (.back quoted) rest).map (c :: ·)
      | none => none
  | .name quoted read, c :: rest =>
      if isNamePart c then readValue lookup (.name quoted (read ++ [c])) rest
      else if c = '\x7b' ∧ read = [] then readValue lookup (.braced quoted []) rest
      else if c = '$' then (readValue lookup (.name quoted []) rest).map (lookup read ++ ·)
      else (readValue lookup (.back quoted) rest).map (lookup read ++ c :: ·)
  | .braced quoted read, c :: rest =>
      if c = '\x7d' then (readValue lookup (.back quoted) rest).map (lookup read ++ ·)
      else readValue lookup (.braced quoted (read ++ [c])) rest
  | .ending, c :: rest =>
      if c = ' ' ∨ c = '\t' then readValue lookup .ending rest
      else if c = '#' then some []
      else none

/-- Whether a character may belong to the name of a variable. -/
def isKeyPart (c : Char) : Bool := c.isAlphanum || c = '_' || c = '.'

/-- Reads the name of a variable. -/
def readKey : List Char → Option (List Char × List Char)
  | [] => none
  | c :: rest =>
      if c.isAlpha || c = '_' then
        some ((c :: rest).takeWhile isKeyPart, (c :: rest).dropWhile isKeyPart)
      else none

/-- The text without the blanks at its front. -/
def skipBlanks (s : List Char) : List Char := s.dropWhile Text.isBlank

/-- Reads a name, which `export` may precede, and the sign after it. -/
def readAssignment (s : List Char) : Option (List Char × List Char) := do
  let (key, s) ← readKey s
  match skipBlanks s with
  | '=' :: s => return (key, s)
  | s =>
      if key = "export".toList then do
        let (key, s) ← readKey s
        match skipBlanks s with
        | '=' :: s => return (key, s)
        | _ => none
      else none

/-- What is on a line: a variable with its value, nothing, or something that cannot be read. -/
inductive Line where
  | entry (name value : String)
  | empty
  | unreadable

/-- Reads a line. -/
def readLine (lookup : List Char → List Char) (line : List Char) : Line :=
  match skipBlanks (Text.trimEnd Text.isBlank line) with
  | [] => .empty
  | '#' :: _ => .empty
  | s =>
      match readAssignment s with
      | none => .unreadable
      | some (key, s) =>
          match skipBlanks s with
          | [] => .entry (String.ofList key) ""
          | '#' :: _ => .entry (String.ofList key) ""
          | s =>
              match readValue lookup .plain s with
              | some value => .entry (String.ofList key) (String.ofList value)
              | none => .unreadable

/-- The value of a name in an environment, which is looked up in the texts `NAME=value`: it is what
follows the name and an equality sign. So a name with such a sign in it goes on into a value. -/
def valueIn (environment : Dictionary String) (name : List Char) : Option (List Char) :=
  match Text.splitAtFirst ['='] name with
  | none => (environment.get? (String.ofList name)).map String.toList
  | some (key, more) =>
      (environment.get? (String.ofList key)).bind fun value =>
        (more ++ ['=']).isPrefixOf? value.toList

/-- The value of a name: of the environment, else of an earlier line, else nothing. -/
def known (environment earlier : Dictionary String) (name : List Char) : List Char :=
  match valueIn environment name with
  | some value => value
  | none => ((earlier.get? (String.ofList name)).getD "").toList

/-- Sets the variables of lines that are not set yet. -/
def loadLines (environment earlier : Dictionary String) : List (List Char) → Dictionary String
  | [] => environment
  | line :: lines =>
      match readLine (known environment earlier) line with
      | .empty => loadLines environment earlier lines
      | .unreadable => environment
      | .entry name value =>
          let environment :=
            if environment.contains name then environment else environment.insert name value
          loadLines environment (earlier.insert name value) lines

/-- The lines of a text, without the characters that end them. -/
def splitLines (s : List Char) : List (List Char) :=
  let (line, rest) := s.foldr
    (fun c (line, lines) => if c = '\n' then ([], line :: lines) else (c :: line, lines)) ([], [])
  line :: rest

/-- The name after a dollar sign: in curly brackets, or as far as letters and digits go. -/
def nameAfterDollar : List Char → List Char
  | '\x7b' :: s => s.takeWhile (· != '\x7d')
  | s => s.takeWhile isNamePart

/-- The variables that a file may ask for the values of. -/
def mentioned (file : String) : List String :=
  (Text.pieces ['$'] file.toList).tail.map fun s =>
    String.ofList (Text.upToFirst ['='] (nameAfterDollar s))

/-- The variables after a file has been read. -/
def load (environment : Dictionary String) (file : String) : Dictionary String :=
  loadLines environment .empty (splitLines file.toList)

end AskSql.EnvFile
