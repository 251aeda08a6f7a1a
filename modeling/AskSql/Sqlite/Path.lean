/-!
Paths of files, and how a path is followed.

A path is followed step by step from the root, or from the working directory if it does not start
with a slash. Empty steps and single dots lead nowhere, and two dots lead one directory up, at the
root to the root. Any other step leads down. It may lead to something that does not exist, for a
later step may take it back; but nothing lies below a file, a step in a directory has at most 255
bytes, and the path so far has at most 511.

* `Path`: the bytes of a path.
* `Entry`, `Files`: what a path leads to.
* `Path.follow`: the steps from the root to the end of a path.
* `Path.full`: the full path of the same file.
-/

namespace AskSql.Sqlite

/-- The bytes of a path. -/
abbrev Path := List UInt8

/-- What a path leads to. -/
inductive Entry where
  | missing
  | directory
  | file
deriving DecidableEq

/-- The files that can be reached. -/
structure Files (m : Type → Type) where
  /-- The full path of the working directory. -/
  workingDirectory : Path
  /-- What a path leads to. -/
  entryAt : Path → m Entry

namespace Path

/-- The byte between the steps of a path. -/
def slash : UInt8 := 47

/-- The byte of which one stands for the same directory and two for the one above. -/
def dot : UInt8 := 46

/-- The bytes of a text. -/
def ofString (s : String) : Path := s.toList.flatMap String.utf8EncodeChar

/-- What stands between the slashes of a path, empty or not. -/
def pieces : Path → List Path
  | [] => [[]]
  | b :: rest =>
      if b = slash then [] :: pieces rest
      else
        match pieces rest with
        | piece :: others => (b :: piece) :: others
        | [] => [[b]]

/-- The full path of the place that some steps lead to from the root, the last step first. -/
def ofSteps (taken : List Path) : Path :=
  slash :: List.intercalate [slash] taken.reverse

/-- The greatest number of bytes in the path to any step. -/
def sizeLimit : Nat := 511

/-- The greatest number of bytes in a step. -/
def stepLimit : Nat := 255

/-- The greatest number of bytes in the path of a database, so that paths can be formed of it for
the files beside it. -/
def fileLimit : Nat := 504

variable {m : Type → Type} [Monad m]

/-- Goes one step down. -/
def down (files : Files m) (taken : List Path) (step : Path) : m (Option (List Path)) := do
  if sizeLimit < (ofSteps (step :: taken)).length then return none
  match ← files.entryAt (ofSteps taken) with
  | .file => return none
  | .directory => return if step.length ≤ stepLimit then some (step :: taken) else none
  | .missing => return some (step :: taken)

/-- The steps from the root after some more steps, the last one first, if they can be taken. -/
def follow (files : Files m) : List Path → List Path → m (Option (List Path))
  | taken, [] => return some taken
  | taken, step :: rest =>
      if step = [] ∨ step = [dot] then follow files taken rest
      else if step = [dot, dot] then follow files taken.tail rest
      else do
        match ← down files taken step with
        | some taken => follow files taken rest
        | none => return none

/-- The full path of a file, if the path can be followed and is not too long. -/
def full (files : Files m) (path : Path) : m (Option Path) := do
  let start := if path.head? = some slash then [] else pieces files.workingDirectory
  match ← follow files [] (start ++ pieces path) with
  | none => return none
  | some taken =>
      return if taken = [] ∨ fileLimit < (ofSteps taken).length then none else some (ofSteps taken)

/-- The directory that a full path lies in. -/
def parent (path : Path) : Path :=
  ofSteps (((pieces path).filter fun piece => piece != []).reverse.tail)

end Path

end AskSql.Sqlite
