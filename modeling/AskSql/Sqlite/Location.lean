import AskSql.Sqlite.Address

/-!
Where a database is kept.

The name of a database is the path of a file or an address. Two names stand for a new database
without tables that is kept nowhere: the empty name and `:memory:`. In an address the option
`mode` changes how the file is opened, but never to more than was permitted before; `vfs` chooses
the layer that reaches the file, one of which keeps databases in memory; `modeof` names a file
that has to exist; `cache` is only checked, and other options do not count.

* `Access`: how an address asks for a file to be opened.
* `Location`: no place, or a file.
* `Location.ofName`: the place of the database of a name.
* `Location.find`: what is found at a place.
-/

namespace AskSql.Sqlite

/-! ### Options -/

/-- How an address asks for a file to be opened. -/
inductive Access where
  | readOnly
  | readWrite
  | create
  | memory
deriving DecidableEq

/-- The access of a name in an address. -/
def Access.ofName (name : String) : Option Access :=
  if name = "ro" then some readOnly
  else if name = "rw" then some readWrite
  else if name = "rwc" then some create
  else if name = "memory" then some memory
  else none

/-- How much an access permits. Nothing limits a database in memory. -/
def Access.rank : Access → Nat
  | readOnly => 0
  | readWrite => 1
  | create => 2
  | memory => 3

/-- Whether an access may give way to another: to memory, or to one that permits no more. -/
def Access.mayBecome (current wanted : Access) : Bool :=
  wanted = memory || wanted.rank ≤ current.rank

/-- The layers that reach files. -/
def fileLayers : List String := ["unix", "unix-none", "unix-dotfile", "unix-excl"]

/-- The layer that keeps databases in memory. -/
def memoryLayer : String := "memdb"

/-- The greatest number of bytes in the path of a database in the layer that keeps them in
memory. -/
def memoryPathLimit : Nat := 1016

/-- How a database is to be opened. -/
structure Opening where
  access : Access := .readOnly
  layer : String := "unix"
  /-- A file that has to exist. -/
  pattern : Option Path := none

/-- Applies an option of an address. -/
def Opening.apply (opening : Opening) (option : AddressOption) : Except AddressFault Opening :=
  let value := Address.textOf option.value
  if option.name = "vfs" then .ok { opening with layer := value }
  else if option.name = "cache" then
    if value = "shared" ∨ value = "private" then .ok opening else .error (.unknownCache value)
  else if option.name = "mode" then
    match Access.ofName value with
    | none => .error (.unknownAccess value)
    | some access =>
        if opening.access.mayBecome access then .ok { opening with access := access }
        else .error (.forbiddenAccess value)
  else if option.name = "modeof" then
    .ok { opening with pattern := opening.pattern.or (some option.value) }
  else .ok opening

/-! ### Places -/

/-- Where a database is kept. -/
inductive Location where
  /-- Nowhere: the database is new and has no tables. -/
  | nowhere
  /-- Nowhere that can be reached. -/
  | unreachable
  | file (path : Path) (opening : Opening)

/-- What is found at a place. -/
inductive Found where
  /-- A new database without tables. -/
  | new
  /-- A file, by its full path. -/
  | file (path : Path)

namespace Location

/-- Whether a path stands for a database that is kept nowhere. -/
def isTransient (path : Path) : Bool := path = [] || path = Path.ofString ":memory:"

/-- The place of a path. -/
def ofPath (path : Path) (opening : Opening) : Location :=
  if isTransient path || opening.access = .memory then nowhere
  else if opening.layer = memoryLayer then
    if path.length ≤ memoryPathLimit then nowhere else unreachable
  else file path opening

/-- The place of an address. -/
def ofAddress (address : Address) : Except AddressFault Location := do
  let opening ← address.options.foldlM Opening.apply {}
  if opening.layer = memoryLayer ∨ opening.layer ∈ fileLayers then
    return ofPath address.path opening
  else throw (.unknownLayer opening.layer)

/-- The place of the database of a name. -/
def ofName (name : String) : Except AddressFault Location :=
  match name.toList with
  | 'f' :: 'i' :: 'l' :: 'e' :: ':' :: rest => do ofAddress (← Address.read rest)
  | _ => .ok (ofPath (Path.ofString name) {})

variable {m : Type → Type} [Monad m]

/-- Whether the file that has to exist does. -/
def hasPattern (files : Files m) (opening : Opening) : m Bool :=
  match opening.pattern with
  | none => return true
  | some path => return (← files.entryAt path) != .missing

/-- What is found at the full path of a file. -/
def findFile (files : Files m) (path : Path) (opening : Opening) : m (Option Found) := do
  match ← files.entryAt path with
  | .file => return some (.file path)
  | .directory => return none
  | .missing =>
      if opening.access != .create then return none
      else if (← files.entryAt path.parent) = .directory then return some .new
      else return none

/-- What is found at a place, if it can be opened. -/
def find (files : Files m) : Location → m (Option Found)
  | nowhere => return some .new
  | unreachable => return none
  | file path opening => do
      match ← path.full files with
      | none => return none
      | some path =>
          if ← hasPattern files opening then findFile files path opening else return none

end Location

end AskSql.Sqlite
