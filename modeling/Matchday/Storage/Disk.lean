import Matchday.Storage.Path

/-!
# Files and folders

A file system answers in the words of its operating system.  A disk is such a file system as a
value: a tree of files and folders with a current folder.

## Main definitions

* `OsError`: what an operating system reports.
* `FileSystem`: the operations on files and folders, in any monad.
* `Disk`, `Disk.fileSystem`: files and folders as a value, and the operations on it.
-/

namespace Matchday

/-- Why the system refuses an operation on a file. -/
inductive OsError where
  | noEntry
  | alreadyExists
  | notDirectory
  | isDirectory
  | nameTooLong
  | nulInName
  | other (text : String)
deriving DecidableEq, Repr, Inhabited

/-- The wording that the system has for an error. -/
def OsError.message : OsError → String
  | noEntry => "No such file or directory (os error 2)"
  | alreadyExists => "File exists (os error 17)"
  | notDirectory => "Not a directory (os error 20)"
  | isDirectory => "Is a directory (os error 21)"
  | nameTooLong => "File name too long (os error 36)"
  | nulInName => "file name contained an unexpected NUL byte"
  | other text => text

/-- The operations on files and folders.  Writing creates a file or replaces its content. -/
structure FileSystem (m : Type → Type) where
  readFile : String → m (Except OsError ByteArray)
  writeFile : String → ByteArray → m (Except OsError Unit)
  makeDir : String → m (Except OsError Unit)
  isDir : String → m Bool
  listDir : String → m (Except OsError (List String))

/-- What stands at a place of the disk. -/
inductive Entry where
  | folder
  | file (content : ByteArray)
deriving Inhabited

/-- The pieces of the absolute path of an entry, outermost first. -/
abbrev Place := List String

/-- Files and folders by their places.  The root is always there. -/
structure Disk where
  entries : List (Place × Entry) := []
  /-- The folder where relative paths begin. -/
  current : Place := []
deriving Inhabited

namespace Disk

/-- The first entry of a place in a list. -/
def lookup (place : Place) : List (Place × Entry) → Option Entry
  | [] => none
  | (p, e) :: rest => if p = place then some e else lookup place rest

/-- What stands at a place; the root is always a folder. -/
def find? (disk : Disk) (place : Place) : Option Entry :=
  if place = [] then some .folder else lookup place disk.entries

/-- Replaces the entry of a place, or adds it at the end. -/
def replace (place : Place) (entry : Entry) : List (Place × Entry) → List (Place × Entry)
  | [] => [(place, entry)]
  | (p, e) :: rest =>
    if p = place then (place, entry) :: rest else (p, e) :: replace place entry rest

/-- The disk with an entry put at a place. -/
def put (disk : Disk) (place : Place) (entry : Entry) : Disk :=
  { disk with entries := replace place entry disk.entries }

/-- A piece of a path may have this many bytes. -/
def maxName : Nat := 255

/-- A path may have this many bytes. -/
def maxPath : Nat := 4095

/-- Follows pieces from a place.  Each piece is looked up in a folder; whether anything is at the
end is left open. -/
def follow (disk : Disk) : Place → List String → Except OsError Place
  | here, [] => .ok here
  | here, piece :: pieces =>
    match disk.find? here with
    | none => .error .noEntry
    | some (.file _) => .error .notDirectory
    | some .folder =>
      if Path.isIdle piece then follow disk here pieces
      else if piece = ".." then follow disk here.dropLast pieces
      else if maxName < piece.utf8ByteSize then .error .nameTooLong
      else follow disk (here ++ [piece]) pieces

/-- Where a path begins, and its pieces. -/
def begin? (disk : Disk) (path : String) : Except OsError (Place × List String) :=
  if path.contains '\x00' then .error .nulInName
  else if maxPath < path.utf8ByteSize then .error .nameTooLong
  else if path.isEmpty then .error .noEntry
  else .ok (if Path.isAbsolute path then [] else disk.current, Path.pieces path)

/-- The entry that a path names, with its place. -/
def resolve (disk : Disk) (path : String) : Except OsError (Place × Entry) := do
  let (start, pieces) ← disk.begin? path
  let place ← disk.follow start pieces
  match disk.find? place with
  | some entry => return (place, entry)
  | none => throw .noEntry

/-- Whether a path ends in a slash. -/
def endsInSlash (pieces : List String) : Bool :=
  pieces.getLast? == some ""

/-- The folder of the last piece of a path, and this piece unless it is `.` or `..` or there is
none. -/
def resolveLast (disk : Disk) (path : String) : Except OsError (Place × Option String) := do
  let (start, pieces) ← disk.begin? path
  match (pieces.reverse.dropWhile (· == "")) with
  | [] => return ([], none)
  | last :: outer =>
    let folder ← disk.follow start (outer.reverse ++ [""])
    if last == "." || last == ".." then return (folder, none)
    else return (folder, some last)

/-- The content of the file at a path. -/
def readFile (disk : Disk) (path : String) : Except OsError ByteArray := do
  match ← disk.resolve path with
  | (_, .file content) => return content
  | (_, .folder) => throw .isDirectory

/-- A path that ends in a slash names no file. -/
def writeFile (disk : Disk) (path : String) (content : ByteArray) : Except OsError Disk := do
  match ← disk.resolveLast path with
  | (_, none) => throw .isDirectory
  | (folder, some name) =>
    if endsInSlash (Path.pieces path) then throw .isDirectory
    if maxName < name.utf8ByteSize then throw .nameTooLong
    match disk.find? (folder ++ [name]) with
    | some .folder => throw .isDirectory
    | _ => return disk.put (folder ++ [name]) (.file content)

/-- The disk with a new folder at a path, whose parent must be there. -/
def makeDir (disk : Disk) (path : String) : Except OsError Disk := do
  match ← disk.resolveLast path with
  | (_, none) => throw .alreadyExists
  | (folder, some name) =>
    if maxName < name.utf8ByteSize then throw .nameTooLong
    match disk.find? (folder ++ [name]) with
    | some _ => throw .alreadyExists
    | none => return disk.put (folder ++ [name]) .folder

/-- Whether a path leads to a folder. -/
def isDir (disk : Disk) (path : String) : Bool :=
  match disk.resolve path with
  | .ok (_, .folder) => true
  | _ => false

/-- The name of an entry inside a folder. -/
def nameIn? (folder place : Place) : Option String :=
  if place.dropLast = folder then place.getLast? else none

/-- The names in the folder at a path. -/
def listDir (disk : Disk) (path : String) : Except OsError (List String) := do
  match ← disk.resolve path with
  | (_, .file _) => throw .notDirectory
  | (folder, .folder) => return disk.entries.filterMap fun (place, _) => nameIn? folder place

/-- Keeps the disk as it is when an operation fails. -/
def attempt (operation : Disk → Except OsError Disk) : StateM Disk (Except OsError Unit) :=
  fun disk =>
    match operation disk with
    | .ok disk' => (.ok (), disk')
    | .error e => (.error e, disk)

/-- The operations on a disk that is passed along. -/
def fileSystem : FileSystem (StateM Disk) where
  readFile path := return (← get).readFile path
  writeFile path content := attempt fun disk => disk.writeFile path content
  makeDir path := attempt fun disk => disk.makeDir path
  isDir path := return (← get).isDir path
  listDir path := return (← get).listDir path

/-- The files below a folder, with their paths from there. -/
def filesBelow (disk : Disk) (folder : Place) : List (String × ByteArray) :=
  disk.entries.filterMap fun (place, entry) =>
    match entry with
    | .folder => none
    | .file content =>
      if folder.isPrefixOf place then some ("/".intercalate (place.drop folder.length), content)
      else none

end Disk

end Matchday
