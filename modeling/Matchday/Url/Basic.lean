import Matchday.Url.Address

/-!
# URLs

A URL taken apart.  User names and passwords are no part of it: what is shown does not hold them.

## Main definitions

* `Url`, `Host`: a URL and the host in it.
* `UrlError`: why a text is no URL.
* `Url.text`: the text of a URL.
* `Url.addQuery`: a URL with more keys and values in its query.
-/

namespace Matchday

/-- Why a text is no URL. -/
inductive UrlError where
  | noBase
  | emptyHost
  | invalidPort
  | invalidIpv4
  | invalidIpv6
  | invalidDomainName
  | invalidDomainCharacter
deriving DecidableEq, Repr

/-- The wording of an error. -/
def UrlError.message : UrlError → String
  | noBase => "relative URL without a base"
  | emptyHost => "empty host"
  | invalidPort => "invalid port number"
  | invalidIpv4 => "invalid IPv4 address"
  | invalidIpv6 => "invalid IPv6 address"
  | invalidDomainName => "invalid international domain name"
  | invalidDomainCharacter => "invalid domain character"

/-- The host of a URL: a name, or an address of either kind. -/
inductive Host where
  | name (s : String)
  | ipv4 (address : Nat)
  | ipv6 (groups : List Nat)
deriving DecidableEq, Repr

namespace Host

/-- The host of a URL that names none. -/
def empty : Host := name ""

/-- A host as a URL writes it. -/
def text : Host → String
  | name s => s
  | ipv4 address => Url.ipv4Text address
  | ipv6 groups => "[" ++ Url.ipv6Text groups ++ "]"

end Host

/-- A URL taken apart. -/
structure Url where
  scheme : String
  host : Host
  /-- The port, unless it is the usual one of the scheme. -/
  port : Option Nat
  path : String
  query : Option String
  fragment : Option String
deriving DecidableEq, Repr

namespace Url

/-- The schemes of the web, whose URLs name a host. -/
def isSpecial (scheme : String) : Bool :=
  ["http", "https", "ws", "wss", "ftp"].contains scheme

/-- The usual port of a scheme. -/
def usualPort? (scheme : String) : Option Nat :=
  if scheme = "http" || scheme = "ws" then some 80
  else if scheme = "https" || scheme = "wss" then some 443
  else if scheme = "ftp" then some 21
  else none

/-- A part with a mark before it, if there is one. -/
def marked (mark : String) : Option String → String
  | some s => mark ++ s
  | none => ""

/-- The text of a URL. -/
def text (u : Url) : String :=
  u.scheme ++ "://" ++ u.host.text ++ marked ":" (u.port.map Nat.repr) ++ u.path ++
    marked "?" u.query ++ marked "#" u.fragment

/-- A key and a value as a query writes them. -/
def pairText : String × String → String
  | (key, value) => formEncode key ++ "=" ++ formEncode value

/-- Adds keys and values to the query. -/
def addQuery (u : Url) (pairs : List (String × String)) : Url :=
  let added := "&".intercalate (pairs.map pairText)
  let query :=
    match u.query with
    | some q => if q.isEmpty then added else q ++ "&" ++ added
    | none => added
  { u with query := some query }

/-- Whether a request can be sent to the host: some characters may stand in a URL only. -/
def hostIsUsable (u : Url) : Bool :=
  u.host.text.toList.all fun c => !(['"', Char.ofNat 96, '{', '}'].contains c)

end Url

end Matchday
