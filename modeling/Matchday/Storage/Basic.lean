import Matchday.Document.Read
import Matchday.Error

/-!
# Storages

A storage holds files under textual paths.  What stands behind it is left open: the operations run
in any monad.

## Main definitions

* `Storage`: reading and writing of files.
* `Storage.refusing`: a storage that refuses to write certain paths.
* `Storage.loadSite`: reads a document from a storage.
-/

namespace Matchday

/-- Where documents are read and pages written, in any monad. -/
structure Storage (m : Type → Type) where
  read : String → m (Except SiteError ByteArray)
  write : String → ByteArray → m (Except SiteError Unit)

/-- The document in a file whose bytes are known. -/
def Site.ofFile (path : String) (bytes : ByteArray) : Except SiteError Site :=
  (Site.ofJson bytes).mapError fun e => .model s!"{path}: {e.message}"

namespace Storage

variable {m : Type → Type} [Monad m]

/-- A storage that is full for the paths that a test selects. -/
def refusing (storage : Storage m) (refuses : String → Bool) : Storage m where
  read := storage.read
  write path content :=
    if refuses path then return .error (.write path "disk full")
    else storage.write path content

/-- Reads the document in a file. -/
def loadSite (storage : Storage m) (path : String) : m (Except SiteError Site) := do
  return (← storage.read path).bind (Site.ofFile path)

end Storage

end Matchday
