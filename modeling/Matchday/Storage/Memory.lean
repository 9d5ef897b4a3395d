import Matchday.Storage.Basic
import Matchday.Table

/-!
# Storages in memory

A memory maps paths to contents.  A pool holds several memories; a handle names one of them, and a
handle that was cloned from another names the same memory.

## Main definitions

* `Memory`, `Memory.storage`: files in memory, and the storage on them.
* `Pool`: memories behind handles.

## Main results

* `Memory.readFile_writeFile`: what a file holds after a write.
-/

namespace Matchday

/-- Files in memory. -/
abbrev Memory := Table ByteArray

namespace Memory

/-- The content under a path, or an error that names the path. -/
def readFile (memory : Memory) (path : String) : Except SiteError ByteArray :=
  match memory.get? path with
  | some content => .ok content
  | none => .error (.io s!"File not found: {path}")

/-- The memory with some content under a path, in place of what was there. -/
def writeFile (memory : Memory) (path : String) (content : ByteArray) : Memory :=
  memory.insert path content

/-- The storage on a memory that is passed along. -/
def storage {m : Type → Type} [Monad m] : Storage (StateT Memory m) where
  read path := return (← get).readFile path
  write path content := do
    modify fun memory => memory.writeFile path content
    return .ok ()

theorem readFile_writeFile (memory : Memory) (path path' : String) (content : ByteArray) :
    (memory.writeFile path content).readFile path' =
      if path = path' then .ok content else memory.readFile path' := by
  by_cases h : path = path' <;> simp [readFile, writeFile, Table.get?_insert, h]

end Memory

/-- Memories side by side, and for each handle the place of the memory that it names. -/
structure Pool where
  handles : List Nat := []
  memories : List Memory := []
deriving Inhabited

namespace Pool

/-- Adds an empty memory and a handle to it. -/
def create (pool : Pool) : Pool where
  handles := pool.handles ++ [pool.memories.length]
  memories := pool.memories ++ [Table.empty]

/-- The place of the memory behind a handle. -/
def place? (pool : Pool) (handle : Nat) : Option Nat :=
  pool.handles[handle]?

/-- Adds a handle to the memory that a handle names. -/
def clone (pool : Pool) (handle : Nat) : Pool where
  handles := pool.handles ++ (pool.place? handle).toList
  memories := pool.memories

/-- The memory behind a handle. -/
def memory (pool : Pool) (handle : Nat) : Memory :=
  ((pool.place? handle).bind (pool.memories[·]?)).getD Table.empty

/-- Writes through a handle, into the memory that it stands for. -/
def write (pool : Pool) (handle : Nat) (path : String) (content : ByteArray) : Pool where
  handles := pool.handles
  memories :=
    match pool.place? handle with
    | some i => pool.memories.modify i fun memory => memory.writeFile path content
    | none => pool.memories

/-- Reads through a handle. -/
def read (pool : Pool) (handle : Nat) (path : String) : Except SiteError ByteArray :=
  (pool.memory handle).readFile path

/-- What a handle has under a path. -/
def get? (pool : Pool) (handle : Nat) (path : String) : Option ByteArray :=
  (pool.memory handle).get? path

/-- The paths of the memory that a handle stands for. -/
def paths (pool : Pool) (handle : Nat) : List String :=
  (pool.memory handle).keys

end Pool

end Matchday
