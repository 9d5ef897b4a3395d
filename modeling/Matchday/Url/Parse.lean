import Matchday.Text.Blank
import Matchday.Url.Domain

/-!
# Reading URLs

A text is read as an absolute URL.  Blanks and control characters around it do not count, nor do
tabs and line breaks inside.

## Main definitions

* `UrlReader`: a library that reads URLs.
* `Url.parse`: the URL that a text writes, as it is read when no other library is at hand.
* `Url.resolvePath`: the path of a URL, its dot segments resolved.

## Implementation notes

What is done with URLs is written for every `UrlReader`, and so is what is proved about it: none of
it depends on how host names are mapped to ASCII.  `Url.parse` maps them letter by letter.  It does
not bring them into a normal form and asks nothing about the direction of the text or about joining
characters, which a full library does.
-/

namespace Matchday

namespace Url

/-- The slashes of a URL of the web. -/
def isSlash (c : Char) : Bool :=
  c == '/' || c == '\\'

/-- Characters that a scheme may have behind its first letter. -/
def isSchemeChar (c : Char) : Bool :=
  c.isAlphanum || c == '+' || c == '-' || c == '.'

/-- The scheme at the start of a text, and what follows its colon. -/
def readScheme? (cs : List Char) : Option (String × List Char) :=
  match cs with
  | [] => none
  | c :: _ =>
    if !c.isAlpha then none
    else
      match cs.dropWhile isSchemeChar with
      | ':' :: rest => some (String.ofList ((cs.takeWhile isSchemeChar).map Char.toLower), rest)
      | _ => none

/-! ### Hosts -/

/-- The host of a URL of the web. -/
def readHost (cs : List Char) : Except UrlError Host :=
  match cs with
  | '[' :: rest =>
    if rest.getLast? == some ']' then
      match readIpv6? rest.dropLast with
      | some groups => .ok (.ipv6 groups)
      | none => .error .invalidIpv6
    else .error .invalidIpv6
  | cs =>
    match domainToAscii? (percentDecode cs) with
    | none => .error .invalidDomainName
    | some name =>
      if name.isEmpty then .error .emptyHost
      else if endsInNumber name.toList then
        match readIpv4? name.toList with
        | some address => .ok (.ipv4 address)
        | none => .error .invalidIpv4
      else .ok (.name name)

/-- Characters that the host of another URL must not hold. -/
def isHostDelimiter (c : Char) : Bool :=
  ['\x00', ' ', '#', '/', ':', '<', '>', '?', '@', '[', '\\', ']', '^', '|'].contains c

/-- The host of a URL that is not of the web, which is taken as it is. -/
def readPlainHost (cs : List Char) : Except UrlError Host :=
  match cs with
  | '[' :: _ => readHost cs
  | cs =>
    if cs.any isHostDelimiter then .error .invalidDomainCharacter
    else .ok (.name (String.ofList (percentEncode isControl cs)))

/-- The host at the start of a text, and what follows it.  A colon inside brackets does not end
the host. -/
def splitHost (inBrackets : Bool) : List Char → List Char × List Char
  | [] => ([], [])
  | c :: cs =>
    if c = ':' && !inBrackets then ([], c :: cs)
    else
      let (host, rest) := splitHost (if c = '[' then true else if c = ']' then false else inBrackets) cs
      (c :: host, rest)

/-- The greatest port. -/
def maxPort : Nat := 65535

/-- The port behind a host. -/
def readPort (scheme : String) (cs : List Char) : Except UrlError (Option Nat) :=
  let digits := cs.takeWhile Char.isDigit
  let port := (readBase? 10 digits).getD 0
  match cs.drop digits.length with
  | [] =>
    if maxPort < port then .error .invalidPort
    else if digits.isEmpty || usualPort? scheme == some port then .ok none
    else .ok (some port)
  | c :: _ =>
    if c = '\\' && port ≤ maxPort then .ok (some port) else .error .invalidPort

/-- The text behind the last `@`, and the text before it if there is one. -/
def splitUser (cs : List Char) : Option (List Char) × List Char :=
  if cs.contains '@' then
    let host := (cs.reverse.takeWhile (· != '@')).reverse
    (some (cs.take (cs.length - host.length - 1)), host)
  else (none, cs)

/-- Host and port in the part between the two slashes and the path.  `atEnd` tells whether the text
ends there. -/
def readAuthority (scheme : String) (atEnd : Bool) (cs : List Char) :
    Except UrlError (Host × Option Nat) := do
  let (user, cs) := splitUser cs
  if user == some [] && cs.isEmpty && !atEnd then throw .emptyHost
  let (hostText, rest) := splitHost false cs
  if isSpecial scheme && hostText.isEmpty then throw .emptyHost
  let host ← if isSpecial scheme then readHost hostText else readPlainHost hostText
  if host == .empty && !rest.isEmpty then throw .emptyHost
  let port ← readPort scheme (rest.drop 1)
  if host == .empty && user.isSome && user != some [] && user != some [':'] then throw .emptyHost
  return (host, port)

/-! ### Paths -/

/-- Whether a segment of a path is the folder that it stands in. -/
def isSingleDot (segment : List Char) : Bool :=
  [".", "%2e"].contains (String.ofList (segment.map Char.toLower))

/-- Whether a segment of a path is the folder above. -/
def isDoubleDot (segment : List Char) : Bool :=
  ["..", ".%2e", "%2e.", "%2e%2e"].contains (String.ofList (segment.map Char.toLower))

/-- The segments of a path with its dot segments resolved; `done` are those before, the last one
first. -/
def resolveSegments (done : List (List Char)) : List (List Char) → List (List Char)
  | [] => done.reverse
  | [segment] =>
    if isDoubleDot segment then ([] :: done.tail).reverse
    else if isSingleDot segment then ([] :: done).reverse
    else (percentEncode inPath segment :: done).reverse
  | segment :: segments =>
    if isDoubleDot segment then resolveSegments done.tail segments
    else if isSingleDot segment then resolveSegments done segments
    else resolveSegments (percentEncode inPath segment :: done) segments

/-- The path of a URL of the web; a backslash counts as a slash. -/
def resolvePath (cs : List Char) : String :=
  let cs := (if (cs.head?.map isSlash).getD false then cs.tail else cs)
  let segments := splitOn '/' (cs.map fun c => if isSlash c then '/' else c)
  String.ofList ('/' :: ['/'].intercalate (resolveSegments [] segments))

/-! ### Whole URLs -/

/-- Characters that do not count anywhere in a URL. -/
def isTabOrBreak (c : Char) : Bool :=
  c == '\t' || c == '\n' || c == '\r'

/-- A text up to a mark, and what follows the mark if it is there. -/
def cut (mark : Char) (cs : List Char) : List Char × Option (List Char) :=
  match cs.dropWhile (· != mark) with
  | [] => (cs, none)
  | _ :: rest => (cs.takeWhile (· != mark), some rest)

/-- A URL whose host is known, with path, query and fragment still to be read. -/
def complete (scheme : String) (host : Host) (port : Option Nat) (cs : List Char) : Url :=
  let (cs, fragment) := cut '#' cs
  let (path, query) := cut '?' cs
  { scheme
    host
    port
    path := if isSpecial scheme then resolvePath path else String.ofList path
    query := query.map fun q => String.ofList (percentEncode inQuery q)
    fragment := fragment.map fun f => String.ofList (percentEncode inFragment f) }

/-- Whether the part with host and port ends before a character. -/
def endsAuthority (scheme : String) (c : Char) : Bool :=
  c == '/' || c == '?' || c == '#' || (c == '\\' && isSpecial scheme)

/-- A URL behind its two slashes. -/
def readRest (scheme : String) (cs : List Char) : Except UrlError Url := do
  let authority := cs.takeWhile fun c => !endsAuthority scheme c
  let rest := cs.dropWhile fun c => !endsAuthority scheme c
  let (host, port) ← readAuthority scheme rest.isEmpty authority
  return complete scheme host port rest

/-- Whether a text is the letter of a drive. -/
def isDriveLetter : List Char → Bool
  | [c, d] => c.isAlpha && (d == ':' || d == '|')
  | _ => false

/-- A URL of a file behind its scheme.  Only a host can be wrong about it. -/
def readFileUrl (cs : List Char) : Except UrlError Url :=
  match cs with
  | a :: b :: rest =>
    let hostText := rest.takeWhile fun c => !isSlash c && c != '?' && c != '#'
    if isSlash a && isSlash b && !hostText.isEmpty && !isDriveLetter hostText then do
      return complete "file" (← readHost hostText) none (rest.drop hostText.length)
    else .ok (complete "file" .empty none cs)
  | cs => .ok (complete "file" .empty none cs)

/-- The URL that a text writes.  Host names are mapped by `domainToAscii?`. -/
def parse (s : String) : Except UrlError Url :=
  let cs := (Text.trimWhile (fun c => c.toNat ≤ 32) s.toList).filter fun c => !isTabOrBreak c
  match readScheme? cs with
  | none => .error .noBase
  | some (scheme, rest) =>
    if scheme = "file" then readFileUrl rest
    else if isSpecial scheme then readRest scheme (rest.dropWhile isSlash)
    else
      match rest with
      | '/' :: '/' :: rest => readRest scheme rest
      | rest => .ok (complete scheme .empty none rest)

end Url

/-- A library that reads URLs.  An error is the message about a text that is no URL. -/
class UrlReader where
  /-- The URL that a text writes. -/
  parse : String → Except String Url
  /-- A URL has a scheme, so the empty text is none. -/
  parse_empty_ne_ok : ∀ url, parse "" ≠ .ok url

/-- The library at hand, `Url.parse`. -/
instance : UrlReader where
  parse s := (Url.parse s).mapError UrlError.message
  parse_empty_ne_ok url h := by
    have hnone : Url.parse "" = .error .noBase := rfl
    rw [hnone] at h
    cases h

end Matchday
