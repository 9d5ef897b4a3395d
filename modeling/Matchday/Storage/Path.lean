/-!
# Paths

A path is a text whose pieces are separated by slashes.  A path that begins with a slash is
absolute.

## Main definitions

* `Path.pieces`: the texts between the slashes.
* `Path.join`: a path below a folder.
* `Path.parent?`: the folder that holds what a path names.
* `Path.hasExtension`: whether a file name has a given extension.
-/

namespace Matchday.Path

/-- The pieces of a path.  There is one more than there are slashes. -/
def splitPieces : List Char → List (List Char)
  | [] => [[]]
  | c :: cs =>
    if c = '/' then [] :: splitPieces cs
    else
      match splitPieces cs with
      | [] => [[c]]
      | piece :: rest => (c :: piece) :: rest

/-- The pieces of a path between its slashes. -/
def pieces (path : String) : List String :=
  (splitPieces path.toList).map String.ofList

/-- Whether a path starts at the root. -/
def isAbsolute (path : String) : Bool :=
  path.toList.head? == some '/'

/-- A path below a folder; an absolute path stays as it is. -/
def join (folder path : String) : String :=
  if isAbsolute path || folder.isEmpty then path
  else if folder.toList.getLast? == some '/' then folder ++ path
  else folder ++ "/" ++ path

/-- Whether a piece leads nowhere. -/
def isIdle (piece : String) : Bool :=
  piece == "" || piece == "."

/-- Leaves out the pieces at the end that lead nowhere. -/
def trimEnd (pieces : List String) : List String :=
  (pieces.reverse.dropWhile isIdle).reverse

/-- The folder of what a path names, as a beginning of the path. -/
def parent? (path : String) : Option String :=
  match pieces path with
  | [] => none
  | first :: rest =>
    match trimEnd rest with
    | [] => if first.isEmpty then none else some ""
    | rest =>
      match trimEnd rest.dropLast with
      | [] => some (if first.isEmpty then "/" else first)
      | rest => some ("/".intercalate (first :: rest))

/-- Whether a file name ends in a point and the extension.  A point at the start begins no
extension. -/
def hasExtension (extension name : String) : Bool :=
  let cs := name.toList.reverse
  let last := cs.takeWhile (· != '.')
  last.length + 1 < cs.length && last.reverse == extension.toList

end Matchday.Path
