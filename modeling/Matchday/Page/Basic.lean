import Matchday.Json.Basic
import Matchday.Text.Blank

/-!
# Pages

A page is described, not rendered: a path and the data that a template needs.

## Main definitions

* `PageKind`, `Page`: a described page.
* `Page.outputFile`: the file that holds the data of a page.
-/

namespace Matchday

/-- What a page is about. -/
inductive PageKind where
  | index
  | country
  | league
deriving DecidableEq, Repr, Inhabited

/-- The name of a kind of page, which is also the name of its template. -/
def PageKind.name : PageKind → String
  | index => "index"
  | country => "country"
  | league => "league"

/-- A path from the root of the site, with a slash at both ends, and the members of the data
object in ascending order of their keys. -/
structure Page where
  path : String
  kind : PageKind
  data : List (String × Json)
deriving Repr, Inhabited

namespace Page

/-- The file of a page, relative to the root of the site. -/
def outputFile (p : Page) : String :=
  let folder := Text.trimOf '/' p.path
  if folder.isEmpty then "index.json" else folder ++ "/index.json"

/-- The content of the file of a page. -/
def content (p : Page) : ByteArray :=
  (Json.object p.data).pretty.toUTF8

end Page

end Matchday
