import Matchday.Document.Model
import Matchday.Page.Write

/-!
# The files of a site

A site in a storage is its pages and, if wanted, its model text.

## Main definitions

* `writeModel`: writes the model text of a site.
* `Written`: the attempts to write pages and model text.
-/

namespace Matchday

/-- Writes the model text of a site. -/
def writeModel {m : Type → Type} [Monad m] (storage : Storage m) (site : Site) (path : String) :
    m WriteAttempt := do
  let content := site.modelText.toUTF8
  return { path, size := content.size, result := ← storage.write path content }

/-- What became of the pages, then of the model text if it is wanted. -/
structure Written where
  pages : List WriteAttempt := []
  model : Option WriteAttempt := none
deriving Inhabited

namespace Written

/-- The report about the pages, the model text left out. -/
def pageReport (w : Written) : WriteReport :=
  .ofAttempts w.pages

/-- The failures of pages and of the model text. -/
def failures (w : Written) : List String :=
  w.pageReport.failures ++ w.model.toList.filterMap WriteAttempt.failure?

/-- Whether the model text was written. -/
def modelWritten (w : Written) : Bool :=
  (w.model.bind WriteAttempt.written?).isSome

end Written

end Matchday
