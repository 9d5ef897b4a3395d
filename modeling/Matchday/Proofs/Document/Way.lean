import Matchday.Proofs.Json.Field
import Matchday.Document.Read

/-!
# Ways through documents

A document is a tree of records: the site with its navigation block, entries and countries, a
country with its leagues, a league with its matches, and a position in each of them.  Here are the
ways from each record to those inside it, and from a match and a position to their numbers.  A way
consists of the texts that lead along it, in any spelling, and of the place that they lead to.

## Main definitions

* `Side`, `Coordinate`: the numbers of a match and of a position.
* `Match.scoreWay`, `Position.way`: the ways to the numbers.
* `Site.navigationWay`, `Site.countryWay`, `Country.leagueWay`, `League.gameWay`,
  `Navigation.itemWay`: the ways to the nodes inside a node.
-/

namespace Matchday

open Json (Consumes Record Way)

/-- The two coordinates of a position. -/
inductive Coordinate where
  | line
  | column
deriving DecidableEq, Repr

/-- A coordinate of a position. -/
def Coordinate.value (p : Position) : Coordinate → UInt32
  | line => p.line
  | column => p.column

/-- A position with another coordinate. -/
def Coordinate.setValue (x : UInt32) (p : Position) : Coordinate → Position
  | line => { p with line := x }
  | column => { p with column := x }

namespace Position

theorem fieldsConsume : record.FieldsConsume := by
  simp only [Record.FieldsConsume, record, List.forall_mem_cons]
  exact ⟨Json.consumes_uint32.fill _ _ _ _, Json.consumes_uint32.fill _ _ _ _, nofun⟩

theorem holds_line : record.Holds "line" (·.line) (fun d x => { d with line := some x })
    Json.uint32 false (.field (·.line) fun g p => { p with line := g p.line }) := {}

theorem holds_column : record.Holds "column" (·.column) (fun d x => { d with column := some x })
    Json.uint32 false (.field (·.column) fun g p => { p with column := g p.column }) := {}

/-- The way from a position to one of its coordinates. -/
def way : Coordinate → Way record.read Json.uint32
  | .line => holds_line.way fieldsConsume (Json.skipsBlanks_integer _ _)
  | .column => holds_column.way fieldsConsume (Json.skipsBlanks_integer _ _)

theorem consumes_read : Consumes 1 record.read :=
  Record.consumes_read fieldsConsume

end Position

/-- The two sides of a match. -/
inductive Side where
  | home
  | away
deriving DecidableEq, Repr

/-- The score of a side. -/
def Side.score (m : Match) : Side → Int32
  | home => m.homeScore
  | away => m.awayScore

/-- A match with another score on one side. -/
def Side.setScore (x : Int32) (m : Match) : Side → Match
  | home => { m with homeScore := x }
  | away => { m with awayScore := x }

namespace Match

theorem fieldsConsume : record.FieldsConsume := by
  simp only [Record.FieldsConsume, record, List.forall_mem_cons]
  refine ⟨?_, ?_, ?_, ?_, ?_, ?_, ?_, ?_, ?_, ?_, nofun⟩
  case refine_7 | refine_8 => exact Json.consumes_int32.fill _ _ _ _
  case refine_10 => exact Position.consumes_read.fill _ _ _ _
  all_goals exact Json.consumes_string.fill _ _ _ _

theorem holds_homeScore : record.Holds "home_score" (·.homeScore)
    (fun d x => { d with homeScore := some x }) Json.int32 false
    (.field (·.homeScore) fun g m => { m with homeScore := g m.homeScore }) := {}

theorem holds_awayScore : record.Holds "away_score" (·.awayScore)
    (fun d x => { d with awayScore := some x }) Json.int32 false
    (.field (·.awayScore) fun g m => { m with awayScore := g m.awayScore }) := {}

theorem holds_pos : record.Holds "pos" (·.pos) (fun d x => { d with pos := some x })
    Position.record.read true (.field (·.pos) fun g m => { m with pos := g m.pos }) := {}

/-- The way from a match to the score of a side. -/
def scoreWay : Side → Way record.read Json.int32
  | .home => holds_homeScore.way fieldsConsume (Json.skipsBlanks_integer _ _)
  | .away => holds_awayScore.way fieldsConsume (Json.skipsBlanks_integer _ _)

/-- The way from a match to its position. -/
def posWay : Way record.read Position.record.read :=
  holds_pos.way fieldsConsume (Record.skipsBlanks_read _)

theorem consumes_read : Consumes 1 record.read :=
  Record.consumes_read fieldsConsume

end Match

namespace League

theorem fieldsConsume : record.FieldsConsume := by
  simp only [Record.FieldsConsume, record, List.forall_mem_cons]
  exact ⟨Json.consumes_string.fill _ _ _ _, Json.consumes_string.fill _ _ _ _,
    (Json.consumes_list Match.consumes_read).fill _ _ _ _, Position.consumes_read.fill _ _ _ _,
    nofun⟩

theorem holds_games : record.Holds "matches" (·.games) (fun d x => { d with games := some x })
    (Json.list Match.record.read) true
    (.field (·.games) fun g l => { l with games := g l.games }) := {}

theorem holds_pos : record.Holds "pos" (·.pos) (fun d x => { d with pos := some x })
    Position.record.read true (.field (·.pos) fun g l => { l with pos := g l.pos }) := {}

/-- The way from a league to one of its matches. -/
def gameWay (k : Nat) : Way record.read Match.record.read :=
  (holds_games.way fieldsConsume (Json.skipsBlanks_list _)).comp (.item Match.consumes_read k)

/-- The way from a league to its position. -/
def posWay : Way record.read Position.record.read :=
  holds_pos.way fieldsConsume (Record.skipsBlanks_read _)

theorem consumes_read : Consumes 1 record.read :=
  Record.consumes_read fieldsConsume

end League

namespace Country

theorem fieldsConsume : record.FieldsConsume := by
  simp only [Record.FieldsConsume, record, List.forall_mem_cons]
  exact ⟨Json.consumes_string.fill _ _ _ _,
    (Json.consumes_list League.consumes_read).fill _ _ _ _, Position.consumes_read.fill _ _ _ _,
    nofun⟩

theorem holds_leagues : record.Holds "leagues" (·.leagues)
    (fun d x => { d with leagues := some x }) (Json.list League.record.read) true
    (.field (·.leagues) fun g c => { c with leagues := g c.leagues }) := {}

theorem holds_pos : record.Holds "pos" (·.pos) (fun d x => { d with pos := some x })
    Position.record.read true (.field (·.pos) fun g c => { c with pos := g c.pos }) := {}

/-- The way from a country to one of its leagues. -/
def leagueWay (j : Nat) : Way record.read League.record.read :=
  (holds_leagues.way fieldsConsume (Json.skipsBlanks_list _)).comp (.item League.consumes_read j)

/-- The way from a country to its position. -/
def posWay : Way record.read Position.record.read :=
  holds_pos.way fieldsConsume (Record.skipsBlanks_read _)

theorem consumes_read : Consumes 1 record.read :=
  Record.consumes_read fieldsConsume

end Country

namespace NavItem

theorem fieldsConsume : record.FieldsConsume := by
  simp only [Record.FieldsConsume, record, List.forall_mem_cons]
  exact ⟨Json.consumes_string.fill _ _ _ _, Position.consumes_read.fill _ _ _ _, nofun⟩

theorem holds_pos : record.Holds "pos" (·.pos) (fun d x => { d with pos := some x })
    Position.record.read true (.field (·.pos) fun g i => { i with pos := g i.pos }) := {}

/-- The way from an item of the navigation block to its position. -/
def posWay : Way record.read Position.record.read :=
  holds_pos.way fieldsConsume (Record.skipsBlanks_read _)

theorem consumes_read : Consumes 1 record.read :=
  Record.consumes_read fieldsConsume

end NavItem

namespace Navigation

theorem fieldsConsume : record.FieldsConsume := by
  simp only [Record.FieldsConsume, record, List.forall_mem_cons]
  exact ⟨(Json.consumes_list NavItem.consumes_read).fill _ _ _ _,
    Position.consumes_read.fill _ _ _ _, nofun⟩

theorem holds_items : record.Holds "items" (·.items) (fun d x => { d with items := some x })
    (Json.list NavItem.record.read) true
    (.field (·.items) fun g n => { n with items := g n.items }) := {}

theorem holds_pos : record.Holds "pos" (·.pos) (fun d x => { d with pos := some x })
    Position.record.read true (.field (·.pos) fun g n => { n with pos := g n.pos }) := {}

/-- The way from the navigation block to one of its entries. -/
def itemWay (i : Nat) : Way record.read NavItem.record.read :=
  (holds_items.way fieldsConsume (Json.skipsBlanks_list _)).comp (.item NavItem.consumes_read i)

/-- The way from a navigation block to its position. -/
def posWay : Way record.read Position.record.read :=
  holds_pos.way fieldsConsume (Record.skipsBlanks_read _)

theorem consumes_read : Consumes 1 record.read :=
  Record.consumes_read fieldsConsume

end Navigation

namespace Site

theorem fieldsConsume : record.FieldsConsume := by
  simp only [Record.FieldsConsume, record, List.forall_mem_cons]
  exact ⟨Json.consumes_string.fill _ _ _ _, Navigation.consumes_read.fill _ _ _ _,
    (Json.consumes_list Country.consumes_read).fill _ _ _ _, Position.consumes_read.fill _ _ _ _,
    nofun⟩

theorem holds_navigation : record.Holds "navigation" (·.navigation)
    (fun d x => { d with navigation := some x }) Navigation.record.read true
    (.field (·.navigation) fun g s => { s with navigation := g s.navigation }) := {}

theorem holds_countries : record.Holds "countries" (·.countries)
    (fun d x => { d with countries := some x }) (Json.list Country.record.read) true
    (.field (·.countries) fun g s => { s with countries := g s.countries }) := {}

theorem holds_pos : record.Holds "pos" (·.pos) (fun d x => { d with pos := some x })
    Position.record.read true (.field (·.pos) fun g s => { s with pos := g s.pos }) := {}

/-- The way from a document to its navigation block. -/
def navigationWay : Way record.read Navigation.record.read :=
  holds_navigation.way fieldsConsume (Record.skipsBlanks_read _)

/-- The way from a document to one of its countries. -/
def countryWay (i : Nat) : Way record.read Country.record.read :=
  (holds_countries.way fieldsConsume (Json.skipsBlanks_list _)).comp (.item Country.consumes_read i)

/-- The way from a site to its position. -/
def posWay : Way record.read Position.record.read :=
  holds_pos.way fieldsConsume (Record.skipsBlanks_read _)

end Site

end Matchday
