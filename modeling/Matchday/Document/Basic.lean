/-!
# Results documents

A results document describes a site: a navigation block and countries, each with leagues, each
with the matches played in it.  Every node carries the position where its source text begins.

## Main definitions

* `Position`, `Match`, `League`, `Country`, `NavItem`, `Navigation`, `Site`: the document tree.
* `Site.ofCountries`: a site whose navigation lists its countries.
* `Site.totalMatches`: the number of matches in all leagues.
-/

namespace Matchday

/-- A line and a column of a source text.  Nodes built in memory carry the position `0:0`. -/
structure Position where
  line : UInt32 := 0
  column : UInt32 := 0
deriving DecidableEq, Repr, Inhabited

namespace Position

/-- A position as messages show it. -/
def text (p : Position) : String :=
  p.line.toNat.repr ++ ":" ++ p.column.toNat.repr

/-- Positions in reading order: by line, then by column. -/
def before (p q : Position) : Bool :=
  p.line < q.line || (p.line == q.line && p.column ≤ q.column)

end Position

/-- One played match. -/
structure Match where
  date : String
  time : String
  homeTeam : String
  homeCity : String
  awayTeam : String
  awayCity : String
  homeScore : Int32
  awayScore : Int32
  stadium : String
  pos : Position := {}
deriving DecidableEq, Repr, Inhabited

/-- A league in one season. -/
structure League where
  name : String
  season : String
  games : List Match := []
  pos : Position := {}
deriving DecidableEq, Repr, Inhabited

/-- A country with its leagues. -/
structure Country where
  name : String
  leagues : List League := []
  pos : Position := {}
deriving DecidableEq, Repr, Inhabited

/-- An entry of the navigation block; it names a country. -/
structure NavItem where
  name : String
  pos : Position := {}
deriving DecidableEq, Repr, Inhabited

/-- The navigation block of a site. -/
structure Navigation where
  items : List NavItem := []
  pos : Position := {}
deriving DecidableEq, Repr, Inhabited

/-- A site: its navigation block, and the countries whose leagues it shows. -/
structure Site where
  name : String
  navigation : Navigation := {}
  countries : List Country := []
  pos : Position := {}
deriving DecidableEq, Repr, Inhabited

/-- The same match at another position. -/
def Match.at (m : Match) (pos : Position) : Match :=
  { m with pos }

/-- Navigation entries in reading order; entries at one position keep their order. -/
def NavItem.sort (items : List NavItem) : List NavItem :=
  items.mergeSort fun a b => a.pos.before b.pos

namespace Site

/-- A site without source positions, its navigation given by names. -/
def ofNames (name : String) (navigation : List String) (countries : List Country) : Site where
  name
  navigation := { items := navigation.map fun item => { name := item } }
  countries

/-- A site whose navigation lists every country in order. -/
def ofCountries (name : String) (countries : List Country) : Site :=
  ofNames name (countries.map (·.name)) countries

/-- The names of the countries, in order. -/
def countryNames (site : Site) : List String :=
  site.countries.map (·.name)

/-- All leagues, country by country. -/
def leagues (site : Site) : List League :=
  site.countries.flatMap (·.leagues)

/-- The league at index `j` of the country at index `i`. -/
def league? (site : Site) (i j : Nat) : Option League :=
  site.countries[i]?.bind fun c => c.leagues[j]?

/-- The match at index `k` of a league. -/
def game? (site : Site) (i j k : Nat) : Option Match :=
  (site.league? i j).bind fun l => l.games[k]?

/-- The number of matches in all leagues. -/
def totalMatches (site : Site) : Nat :=
  (site.leagues.flatMap (·.games)).length

theorem ofCountries_countries (name : String) (countries : List Country) :
    (ofCountries name countries).countries = countries := rfl

theorem ofCountries_items_names (name : String) (countries : List Country) :
    (ofCountries name countries).navigation.items.map (·.name) = countries.map (·.name) := by
  simp [ofCountries, ofNames, Function.comp_def]

end Site

end Matchday
