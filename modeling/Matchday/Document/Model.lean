import Matchday.Document.Basic

/-!
# The model text

The textual form of a document, as its own language writes it.  Names and texts are written as
they are; nothing is escaped.

## Main definitions

* `Site.modelText`: the text of a site.
-/

namespace Matchday

/-- The block of a match, eight lines. -/
def Match.modelText (m : Match) : String :=
  "      match \x7b\n" ++
  s!"        date    \"{m.date}\"\n" ++
  s!"        time    \"{m.time}\"\n" ++
  s!"        home    \"{m.homeTeam}\"    (\"{m.homeCity}\")\n" ++
  s!"        away    \"{m.awayTeam}\"    (\"{m.awayCity}\")\n" ++
  s!"        score   {m.homeScore.toInt} - {m.awayScore.toInt}\n" ++
  s!"        stadium \"{m.stadium}\"\n" ++
  "      \x7d\n"

/-- The lines of the model text for a league. -/
def League.modelText (l : League) : String :=
  s!"    league {l.name} season \"{l.season}\" \x7b\n" ++
  String.join (l.games.map Match.modelText) ++
  "    \x7d\n"

/-- The lines of the model text for a country. -/
def Country.modelText (c : Country) : String :=
  s!"  country {c.name} \x7b\n" ++
  String.join (c.leagues.map League.modelText) ++
  "  \x7d\n"

/-- The line of the model text for an item of the navigation block. -/
def NavItem.modelText (i : NavItem) : String :=
  s!"    {i.name};\n"

/-- The model text of a site. -/
def Site.modelText (s : Site) : String :=
  s!"footballsite {s.name} \x7b\n\n" ++
  "  navigation \x7b\n" ++
  String.join (s.navigation.items.map NavItem.modelText) ++
  "  \x7d\n\n" ++
  String.join (s.countries.map fun c => c.modelText ++ "\n") ++
  "\x7d\n"

end Matchday
