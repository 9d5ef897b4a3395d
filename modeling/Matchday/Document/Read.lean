import Matchday.Document.Basic
import Matchday.Json.Record

/-!
# Reading documents

A document is a JSON object.  Names, seasons and the fields of a match must be given; lists,
navigation and positions may be left out.

## Main definitions

* `Site.record`: how a document is read, node by node.
* `Site.ofJson`: the document in some bytes.
-/

namespace Matchday

open Json (Field Record Reader)

namespace Position

/-- The members of a position, as far as they are there. -/
structure Draft where
  line : Option UInt32 := none
  column : Option UInt32 := none

/-- How a position is written in a document. -/
def record : Record Draft Position where
  name := "SourcePos"
  fields := [
    .of "line" (·.line) (fun d x => { d with line := some x }) Json.uint32 false,
    .of "column" (·.column) (fun d x => { d with column := some x }) Json.uint32 false]
  blank := {}
  build := fun d => do
    return { line := ← Json.require "line" d.line, column := ← Json.require "column" d.column }

end Position

namespace Match

/-- The members of a match, as far as they are there. -/
structure Draft where
  date : Option String := none
  time : Option String := none
  homeTeam : Option String := none
  homeCity : Option String := none
  awayTeam : Option String := none
  awayCity : Option String := none
  homeScore : Option Int32 := none
  awayScore : Option Int32 := none
  stadium : Option String := none
  pos : Option Position := none

/-- How a match is written in a document. -/
def record : Record Draft Match where
  name := "Match"
  fields := [
    .of "date" (·.date) (fun d x => { d with date := some x }) Json.string false,
    .of "time" (·.time) (fun d x => { d with time := some x }) Json.string false,
    .of "home_team" (·.homeTeam) (fun d x => { d with homeTeam := some x }) Json.string false,
    .of "home_city" (·.homeCity) (fun d x => { d with homeCity := some x }) Json.string false,
    .of "away_team" (·.awayTeam) (fun d x => { d with awayTeam := some x }) Json.string false,
    .of "away_city" (·.awayCity) (fun d x => { d with awayCity := some x }) Json.string false,
    .of "home_score" (·.homeScore) (fun d x => { d with homeScore := some x }) Json.int32 false,
    .of "away_score" (·.awayScore) (fun d x => { d with awayScore := some x }) Json.int32 false,
    .of "stadium" (·.stadium) (fun d x => { d with stadium := some x }) Json.string false,
    .of "pos" (·.pos) (fun d x => { d with pos := some x }) Position.record.read true]
  blank := {}
  build := fun d => do
    return {
      date := ← Json.require "date" d.date
      time := ← Json.require "time" d.time
      homeTeam := ← Json.require "home_team" d.homeTeam
      homeCity := ← Json.require "home_city" d.homeCity
      awayTeam := ← Json.require "away_team" d.awayTeam
      awayCity := ← Json.require "away_city" d.awayCity
      homeScore := ← Json.require "home_score" d.homeScore
      awayScore := ← Json.require "away_score" d.awayScore
      stadium := ← Json.require "stadium" d.stadium
      pos := d.pos.getD {} }

end Match

namespace League

/-- The members of a league, as far as they are there. -/
structure Draft where
  name : Option String := none
  season : Option String := none
  games : Option (List Match) := none
  pos : Option Position := none

/-- How a league is written in a document. -/
def record : Record Draft League where
  name := "League"
  fields := [
    .of "name" (·.name) (fun d x => { d with name := some x }) Json.string false,
    .of "season" (·.season) (fun d x => { d with season := some x }) Json.string false,
    .of "matches" (·.games) (fun d x => { d with games := some x })
      (Json.list Match.record.read) true,
    .of "pos" (·.pos) (fun d x => { d with pos := some x }) Position.record.read true]
  blank := {}
  build := fun d => do
    return {
      name := ← Json.require "name" d.name
      season := ← Json.require "season" d.season
      games := d.games.getD []
      pos := d.pos.getD {} }

end League

namespace Country

/-- The members of a country, as far as they are there. -/
structure Draft where
  name : Option String := none
  leagues : Option (List League) := none
  pos : Option Position := none

/-- How a country is written in a document. -/
def record : Record Draft Country where
  name := "Country"
  fields := [
    .of "name" (·.name) (fun d x => { d with name := some x }) Json.string false,
    .of "leagues" (·.leagues) (fun d x => { d with leagues := some x })
      (Json.list League.record.read) true,
    .of "pos" (·.pos) (fun d x => { d with pos := some x }) Position.record.read true]
  blank := {}
  build := fun d => do
    return {
      name := ← Json.require "name" d.name
      leagues := d.leagues.getD []
      pos := d.pos.getD {} }

end Country

namespace NavItem

/-- The members of an item of the navigation block, as far as they are there. -/
structure Draft where
  name : Option String := none
  pos : Option Position := none

/-- How an item of the navigation block is written in a document. -/
def record : Record Draft NavItem where
  name := "NavItem"
  fields := [
    .of "name" (·.name) (fun d x => { d with name := some x }) Json.string false,
    .of "pos" (·.pos) (fun d x => { d with pos := some x }) Position.record.read true]
  blank := {}
  build := fun d => do
    return { name := ← Json.require "name" d.name, pos := d.pos.getD {} }

end NavItem

namespace Navigation

/-- The members of a navigation block, as far as they are there. -/
structure Draft where
  items : Option (List NavItem) := none
  pos : Option Position := none

/-- How a navigation block is written in a document. -/
def record : Record Draft Navigation where
  name := "Navigation"
  fields := [
    .of "items" (·.items) (fun d x => { d with items := some x })
      (Json.list NavItem.record.read) true,
    .of "pos" (·.pos) (fun d x => { d with pos := some x }) Position.record.read true]
  blank := {}
  build := fun d => .ok { items := d.items.getD [], pos := d.pos.getD {} }

end Navigation

namespace Site

/-- The members of a site, as far as they are there. -/
structure Draft where
  name : Option String := none
  navigation : Option Navigation := none
  countries : Option (List Country) := none
  pos : Option Position := none

/-- How a site is written in a document. -/
def record : Record Draft Site where
  name := "Site"
  fields := [
    .of "name" (·.name) (fun d x => { d with name := some x }) Json.string false,
    .of "navigation" (·.navigation) (fun d x => { d with navigation := some x })
      Navigation.record.read true,
    .of "countries" (·.countries) (fun d x => { d with countries := some x })
      (Json.list Country.record.read) true,
    .of "pos" (·.pos) (fun d x => { d with pos := some x }) Position.record.read true]
  blank := {}
  build := fun d => do
    return {
      name := ← Json.require "name" d.name
      navigation := d.navigation.getD {}
      countries := d.countries.getD []
      pos := d.pos.getD {} }

/-- The document in some bytes. -/
def ofJson (bytes : ByteArray) : Except Json.ReadError Site :=
  Json.document record.read (.ofBytes bytes)

end Site

end Matchday
