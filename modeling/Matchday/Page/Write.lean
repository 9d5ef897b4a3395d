import Matchday.Log
import Matchday.Page.Basic
import Matchday.Storage.Basic

/-!
# Writing pages

Pages are written one after another; one that fails does not stop the rest.

## Main definitions

* `Page.pathIn`: where a page is stored.
* `writePages`: writes pages, one attempt for each.
* `WriteReport`: which pages are written and which are not.
-/

namespace Matchday

/-- The path of a page inside a folder of the storage.  Slashes around the folder do not count. -/
def Page.pathIn (folder : String) (page : Page) : String :=
  let folder := Text.trimOf '/' folder
  if folder.isEmpty then page.outputFile else folder ++ "/" ++ page.outputFile

/-- What became of one file. -/
structure WriteAttempt where
  path : String
  size : Nat
  result : Except SiteError Unit
deriving Inhabited

namespace WriteAttempt

/-- The path, unless the attempt failed. -/
def written? (a : WriteAttempt) : Option String :=
  match a.result with
  | .ok _ => some a.path
  | .error _ => none

/-- The failure, led in by the path. -/
def failure? (a : WriteAttempt) : Option String :=
  match a.result with
  | .ok _ => none
  | .error e => some s!"{a.path}: {e.message}"

/-- What is logged about an attempt to write. -/
def log (a : WriteAttempt) : LogLine :=
  match a.result with
  | .ok _ => ⟨.debug, s!"Wrote {a.path} ({a.size} bytes)"⟩
  | .error e => ⟨.warning, s!"Failed to write {a.path}: {e.message}"⟩

end WriteAttempt

section Write

variable {m : Type → Type} [Monad m]

/-- Writes the content of a page into a folder. -/
def writePage (storage : Storage m) (folder : String) (page : Page) : m WriteAttempt := do
  let path := page.pathIn folder
  let result ← storage.write path page.content
  return { path, size := page.content.size, result }

/-- Writes pages in order. -/
def writePages (storage : Storage m) (folder : String) (pages : List Page) :
    m (List WriteAttempt) :=
  pages.mapM (writePage storage folder)

end Write

/-- The paths of the written files and the failures, each in order. -/
structure WriteReport where
  written : List String
  failures : List String
deriving DecidableEq, Repr, Inhabited

namespace WriteReport

/-- The report about some attempts, in their order. -/
def ofAttempts (attempts : List WriteAttempt) : WriteReport where
  written := attempts.filterMap WriteAttempt.written?
  failures := attempts.filterMap WriteAttempt.failure?

/-- Whether nothing failed. -/
def isSuccess (r : WriteReport) : Bool :=
  r.failures.isEmpty

theorem length_add_length (attempts : List WriteAttempt) :
    (ofAttempts attempts).written.length + (ofAttempts attempts).failures.length =
      attempts.length := by
  simp only [ofAttempts]
  induction attempts with
  | nil => rfl
  | cons a as ih =>
    obtain ⟨path, size, result⟩ := a
    cases result <;>
      simp only [List.filterMap_cons, WriteAttempt.written?, WriteAttempt.failure?,
        List.length_cons] <;> omega

end WriteReport

end Matchday
