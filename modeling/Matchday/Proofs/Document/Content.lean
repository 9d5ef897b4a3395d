import Matchday.Document.Basic
import Mathlib.Data.List.Basic

/-!
# The content of documents

Positions tell where a node stands in its source text, and the navigation block repeats names of
countries.  What is left without them is the content of a document.

## Main definitions

* `League.unplaced`, `Country.unplaced`, `Navigation.unplaced`, `Site.unplaced`: a node without
  positions.
* `Site.content`: a site without positions and without its navigation block.
* `Site.games`: all matches of a site.
-/

namespace Matchday

/-- A league without the positions in it. -/
def League.unplaced (l : League) : League where
  name := l.name
  season := l.season
  games := l.games.map (·.at {})

/-- A country without the positions in it. -/
def Country.unplaced (c : Country) : Country where
  name := c.name
  leagues := c.leagues.map League.unplaced

/-- A navigation block without the positions in it. -/
def Navigation.unplaced (n : Navigation) : Navigation where
  items := n.items.map fun i => { name := i.name }

namespace Site

/-- The same document without positions. -/
def unplaced (s : Site) : Site where
  name := s.name
  navigation := s.navigation.unplaced
  countries := s.countries.map Country.unplaced

/-- The same document without positions and without its navigation block. -/
def content (s : Site) : Site :=
  { s.unplaced with navigation := {} }

/-- All matches, league by league. -/
def games (s : Site) : List Match :=
  s.leagues.flatMap (·.games)

theorem length_games (s : Site) : s.games.length = s.totalMatches := rfl

end Site

end Matchday
