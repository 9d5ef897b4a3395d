import Matchday.Storage.Basic
import Matchday.Storage.Disk

/-!
# Storages in a folder

A folder of a file system serves as a storage.  Writing a file makes the folders above it first.

## Main definitions

* `FileSystem.makeDirs`: makes a folder with all folders above it.
* `Storage.folder`: the storage in a folder.
-/

namespace Matchday

variable {m : Type → Type} [Monad m]

namespace FileSystem

/-- Makes a folder; one that exists will do. -/
def ensureDir (fs : FileSystem m) (path : String) : m (Except OsError Unit) := do
  match ← fs.makeDir path with
  | .ok () => return .ok ()
  | .error e => if ← fs.isDir path then return .ok () else return .error e

/-- Makes a folder, and the folder above it when that is missing.  The fuel bounds the number of
folders. -/
def makeDirsWithin (fs : FileSystem m) : Nat → String → m (Except OsError Unit)
  | 0, _ => return .ok ()
  | fuel + 1, path => do
    if path.isEmpty then return .ok ()
    match ← fs.ensureDir path with
    | .error .noEntry =>
      match Path.parent? path with
      | none => return .error .noEntry
      | some parent =>
        match ← makeDirsWithin fs fuel parent with
        | .error e => return .error e
        | .ok () => fs.ensureDir path
    | result => return result

/-- Makes a folder with all folders above it. -/
def makeDirs (fs : FileSystem m) (path : String) : m (Except OsError Unit) :=
  fs.makeDirsWithin (path.length + 1) path

end FileSystem

namespace Storage

/-- Makes the folder above a file. -/
def makeParent (fs : FileSystem m) (path : String) : m (Except SiteError Unit) := do
  match Path.parent? path with
  | none => return .ok ()
  | some parent =>
    return (← fs.makeDirs parent).mapError fun e =>
      .write path s!"cannot create {parent}: {e.message}"

/-- The storage in a folder. -/
def folder (fs : FileSystem m) (base : String) : Storage m where
  read path :=
    return (← fs.readFile (Path.join base path)).mapError fun e => .io e.message
  write path content := do
    let path := Path.join base path
    match ← makeParent fs path with
    | .error e => return .error e
    | .ok () =>
      return (← fs.writeFile path content).mapError fun e => .write path e.message

end Storage

end Matchday
