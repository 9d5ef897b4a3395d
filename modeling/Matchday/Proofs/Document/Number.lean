import Matchday.Proofs.Json.Range
import Matchday.Proofs.Document.Way
import Matchday.Proofs.Document.RoundTrip

/-!
# Numbers in documents

The scores of a match and the two coordinates of a position are the numbers of a document.  Each of
them is an integer of a range, and a document in which one of them is written with any integer at
all loads exactly when the integer lies in the range: then the number is this integer and nothing
else is different.  No integer is wrapped around or rounded, however many digits it has.

What stands in front of the number is any text that leads to it: with members in any order, with
members that the document does not know, with blanks anywhere and any characters escaped, and with
records written as arrays.

## Main definitions

* `Site.Spot`: where a node stands in a document.
* `Site.NumberPlace`: where a number stands in a document, with its range and its value.

## Main results

* `Site.ofJson_number`: a document with an integer in place of a number.
* `Storage.loadSite_number`: the same for a document that is loaded.
-/

namespace Matchday

open Json (Record Way)

/-! ### Numbers of a document -/

namespace Site

/-- Where a node stands in a document, counted from zero in each list. -/
inductive Spot where
  | site
  | navigation
  | item (i : Nat)
  | country (i : Nat)
  | league (i j : Nat)
  | game (i j k : Nat)
deriving DecidableEq, Repr

/-- The document with another league in a country. -/
def changeLeague (s : Site) (i j : Nat) (f : League → League) : Site :=
  { s with countries := s.countries.modify i fun c =>
      { c with leagues := c.leagues.modify j f } }

/-- The document with another match in a league. -/
def changeGame (s : Site) (i j k : Nat) (f : Match → Match) : Site :=
  s.changeLeague i j fun l => { l with games := l.games.modify k f }

/-- The position of a node. -/
def pos? (s : Site) : Spot → Option Position
  | .site => some s.pos
  | .navigation => some s.navigation.pos
  | .item i => do return (← s.navigation.items[i]?).pos
  | .country i => do return (← s.countries[i]?).pos
  | .league i j => do return (← s.league? i j).pos
  | .game i j k => do return (← s.game? i j k).pos

/-- The document with another position of a node. -/
def changePos (s : Site) (f : Position → Position) : Spot → Site
  | .site => { s with pos := f s.pos }
  | .navigation => { s with navigation := { s.navigation with pos := f s.navigation.pos } }
  | .item i => { s with navigation := { s.navigation with
      items := s.navigation.items.modify i fun item => { item with pos := f item.pos } } }
  | .country i => { s with countries := s.countries.modify i fun c => { c with pos := f c.pos } }
  | .league i j => s.changeLeague i j fun l => { l with pos := f l.pos }
  | .game i j k => s.changeGame i j k fun m => { m with pos := f m.pos }

/-- The way from a document to a league in a country. -/
def leagueWay (i j : Nat) : Way record.read League.record.read :=
  (countryWay i).comp (Country.leagueWay j)

/-- The way from a document to a match in a league. -/
def gameWay (i j k : Nat) : Way record.read Match.record.read :=
  (leagueWay i j).comp (League.gameWay k)

/-- The way from a document to the score of a side of a match. -/
def scoreWay (i j k : Nat) (side : Side) : Way record.read Json.int32 :=
  (gameWay i j k).comp (Match.scoreWay side)

/-- The way from a document to the position of a node. -/
def nodePosWay : Spot → Way record.read Position.record.read
  | .site => posWay
  | .navigation => navigationWay.comp Navigation.posWay
  | .item i => navigationWay.comp ((Navigation.itemWay i).comp NavItem.posWay)
  | .country i => (countryWay i).comp Country.posWay
  | .league i j => (leagueWay i j).comp League.posWay
  | .game i j k => (gameWay i j k).comp Match.posWay

/-- The way from a document to a coordinate of a node. -/
def coordinateWay (spot : Spot) (c : Coordinate) : Way record.read Json.uint32 :=
  (nodePosWay spot).comp (Position.way c)

theorem get?_nodePosWay (s : Site) (spot : Spot) :
    (nodePosWay spot).place.get? s = s.pos? spot := by
  cases spot <;> rfl

theorem modify_nodePosWay (s : Site) (spot : Spot) (f : Position → Position) :
    (nodePosWay spot).place.modify f s = s.changePos f spot := by
  cases spot <;> rfl

/-- Where a number stands in a document: the score of a side of a match, or a coordinate of a
node. -/
inductive NumberPlace where
  | score (i j k : Nat) (side : Side)
  | coordinate (spot : Spot) (c : Coordinate)
deriving DecidableEq, Repr

namespace NumberPlace

/-- The texts in front of a number: blanks, and a text that leads to the number. -/
def IsReachedBy (p : NumberPlace) (front : List Char) : Prop :=
  ∃ b u, Json.IsBlank b ∧ front = b ++ u ∧ match p with
    | score i j k side => (scoreWay i j k side).IsText u
    | coordinate spot c => (coordinateWay spot c).IsText u

/-- The range of a number. -/
def Fits (n : Int) : NumberPlace → Prop
  | score .. => -2 ^ 31 ≤ n ∧ n < 2 ^ 31
  | coordinate .. => 0 ≤ n ∧ n < 2 ^ 32

/-- The number in a document. -/
def value? (s : Site) : NumberPlace → Option Int
  | score i j k side => do return (side.score (← s.game? i j k)).toInt
  | coordinate spot c => do return (c.value (← s.pos? spot)).toNat

/-- The document with an integer of the range in place of the number. -/
def put (n : Int) (s : Site) : NumberPlace → Site
  | score i j k side => s.changeGame i j k fun m => side.setScore (Int32.ofInt n) m
  | coordinate spot c => s.changePos (fun p => c.setValue (UInt32.ofNat n.toNat) p) spot

end NumberPlace

theorem set_scoreWay (s : Site) (i j k : Nat) (side : Side) (x : Int32) :
    (scoreWay i j k side).place.set x s = s.changeGame i j k (side.setScore x) := by
  cases side <;> rfl

theorem set_coordinateWay (s : Site) (spot : Spot) (c : Coordinate) (x : UInt32) :
    (coordinateWay spot c).place.set x s = s.changePos (c.setValue x) spot := by
  rw [← modify_nodePosWay]
  cases c <;> rfl

/-- The number of a score is what stands at the end of the way to it. -/
theorem value?_score (s : Site) (i j k : Nat) (side : Side) :
    (NumberPlace.score i j k side).value? s =
      ((scoreWay i j k side).place.get? s).map Int32.toInt := by
  have hget : (scoreWay i j k side).place.get? s =
      (s.game? i j k).bind fun m => some (side.score m) := by
    cases side <;> rfl
  rw [hget, Option.map_bind]
  rfl

theorem value?_coordinate (s : Site) (spot : Spot) (c : Coordinate) :
    (NumberPlace.coordinate spot c).value? s =
      ((coordinateWay spot c).place.get? s).map fun x => (x.toNat : Int) := by
  have hget : (coordinateWay spot c).place.get? s =
      (s.pos? spot).bind fun p => some (c.value p) := by
    rw [← get?_nodePosWay]
    cases c <;> rfl
  rw [hget, Option.map_bind]
  rfl

/-- **A document with an integer in place of a number.**  If it is read with some integer there,
then with every integer of the range, which is then the number, and nothing else is different; with
no other integer it is read. -/
theorem ofJson_number (p : NumberPlace) {front back : List Char} (hfront : p.IsReachedBy front)
    (hback : Json.Source.EndsValue (back.map some)) {m : Int} {s : Site}
    (hvalid : ofJson (Json.textWith front m back).toUTF8 = .ok s) (n : Int) :
    (p.Fits n → ofJson (Json.textWith front n back).toUTF8 = .ok (p.put n s) ∧
      p.value? (p.put n s) = some n) ∧
    (¬ p.Fits n → ∃ e, ofJson (Json.textWith front n back).toUTF8 = .error e) := by
  obtain ⟨b, u, hb, rfl, hu⟩ := hfront
  simp only [ofJson, Json.Source.ofBytes_toUTF8] at hvalid ⊢
  cases p with
  | score i j k side =>
    have hinteger := (scoreWay i j k side).document_integer (Record.skipsBlanks_read record)
      Json.has64Bits_toInt32? hb hu hback hvalid n
    refine ⟨fun hfits => ?_, fun hfits => hinteger.2 (if_neg hfits)⟩
    obtain ⟨hread, hvalue⟩ := hinteger.1 (Int32.ofInt n) (if_pos hfits)
    rw [set_scoreWay] at hread hvalue
    refine ⟨hread, ?_⟩
    change (NumberPlace.score i j k side).value? (s.changeGame i j k _) = _
    rw [value?_score, hvalue, Option.map_some, Int32.toInt_ofInt_of_le hfits.1 hfits.2]
  | coordinate spot c =>
    have hinteger := (coordinateWay spot c).document_integer (Record.skipsBlanks_read record)
      Json.has64Bits_toUInt32? hb hu hback hvalid n
    refine ⟨fun hfits => ?_, fun hfits => hinteger.2 (if_neg hfits)⟩
    obtain ⟨hread, hvalue⟩ := hinteger.1 (UInt32.ofNat n.toNat) (if_pos hfits)
    rw [set_coordinateWay] at hread hvalue
    refine ⟨hread, ?_⟩
    have hnat : n.toNat < 2 ^ 32 := (Int.toNat_lt hfits.1).2 hfits.2
    change (NumberPlace.coordinate spot c).value? (s.changePos _ spot) = _
    rw [value?_coordinate, hvalue, Option.map_some, UInt32.toNat_ofNat', Nat.mod_eq_of_lt hnat,
      Int.toNat_of_nonneg hfits.1]

end Site

/-! ### Loading -/

theorem Site.ofFile_eq_ok_iff {path : String} {bytes : ByteArray} {s : Site} :
    ofFile path bytes = .ok s ↔ ofJson bytes = .ok s := by
  rw [ofFile]
  cases ofJson bytes with
  | error e => exact iff_of_false (fun h => by cases h) (fun h => by cases h)
  | ok s' => exact ⟨congrArg _ ∘ Except.ok.inj, congrArg _ ∘ Except.ok.inj⟩

/-- **No number of a document wraps or is rounded.**  Let a file be loaded as a document with some
integer in the place of a score or of a coordinate.  With every integer of the range in this place
it is loaded as well, the number is then exactly this integer and all else is as before; with every
other integer, of however many digits, loading it fails. -/
theorem Storage.loadSite_number {σ : Type} {storage : Storage (StateM σ)} {path : String}
    (p : Site.NumberPlace) {front back : List Char} (hfront : p.IsReachedBy front)
    (hback : Json.Source.EndsValue (back.map some)) {m : Int} {before : σ}
    (hbefore : ((storage.read path).run before).1 = .ok (Json.textWith front m back).toUTF8)
    {site : Site} (hvalid : ((storage.loadSite path).run before).1 = .ok site) {n : Int} {after : σ}
    (hafter : ((storage.read path).run after).1 = .ok (Json.textWith front n back).toUTF8) :
    (p.Fits n → ((storage.loadSite path).run after).1 = .ok (p.put n site) ∧
      p.value? (p.put n site) = some n) ∧
    (¬ p.Fits n → ∃ message,
      ((storage.loadSite path).run after).1 = .error (.model message)) := by
  rw [run_loadSite hbefore, Site.ofFile_eq_ok_iff] at hvalid
  rw [run_loadSite hafter, Site.ofFile_eq_ok_iff]
  have hnumber := Site.ofJson_number p hfront hback hvalid n
  refine ⟨hnumber.1, fun hfits => ?_⟩
  obtain ⟨e, he⟩ := hnumber.2 hfits
  exact ⟨_, congrArg (Except.mapError _) he⟩

/-! ### A document with one match -/

/-- The start of an object, up to the value of its first member. -/
def Json.opening (key : String) : List Char :=
  '\x7b' :: (quoted key ++ [':'])

theorem Json.Record.reaches_opening {σ α : Type} {r : Record σ α} {name : String}
    (hblank : ∀ field ∈ r.fields, field.name = name → field.isGiven r.blank = false) :
    r.Reaches name (opening name) := by
  simpa [opening] using Reaches.member (.first isBlank_nil) (isKeyText_quoted name) hblank
    isBlank_nil isBlank_nil

/-- More members, whose values are empty texts. -/
def Json.emptyTexts (keys : List String) : List Char :=
  keys.flatMap fun key => ',' :: (quoted key ++ [':', '"', '"'])

/-- The text in front of the first item of an array. -/
theorem Json.Way.isText_item_zero {α : Type} {item : Reader α} (h : Consumes 1 item) :
    (Way.item h 0).IsText ['['] :=
  ⟨[], .first isBlank_nil, rfl⟩

namespace Site

/-- A document with one match, which has no texts and no goals. -/
def oneMatch : Site where
  name := ""
  countries := [{ name := "", leagues := [{ name := "", season := "", games := [game] }] }]
where
  /-- The match of this document. -/
  game : Match :=
    { date := "", time := "", homeTeam := "", homeCity := "", awayTeam := "", awayCity := "",
      homeScore := 0, awayScore := 0, stadium := "" }

/-- A text of this document in front of the score of the home team. -/
def oneMatchFront : List Char :=
  Json.opening "countries" ++ ['['] ++ (Json.opening "leagues" ++ ['[']) ++
    (Json.opening "matches" ++ ['[']) ++ Json.opening "home_score"

/-- The text behind the score. -/
def oneMatchBack : List Char :=
  ',' :: (Json.quoted "away_score" ++ [':', '0'] ++
    Json.emptyTexts ["date", "time", "home_team", "home_city", "away_team", "away_city",
      "stadium"] ++ ['\x7d', ']'] ++ Json.emptyTexts ["name", "season"] ++ ['\x7d', ']'] ++
    Json.emptyTexts ["name"] ++ ['\x7d', ']'] ++ Json.emptyTexts ["name"] ++ ['\x7d'])

theorem isReachedBy_oneMatchFront :
    (NumberPlace.score 0 0 0 .home).IsReachedBy oneMatchFront := by
  have hcountries : (countryWay 0).IsText (Json.opening "countries" ++ ['[']) :=
    ⟨_, _, Json.Record.reaches_opening (by simp [record, Json.Field.of]),
      Json.Way.isText_item_zero _, rfl⟩
  have hleagues : (Country.leagueWay 0).IsText (Json.opening "leagues" ++ ['[']) :=
    ⟨_, _, Json.Record.reaches_opening (by simp [Country.record, Json.Field.of]),
      Json.Way.isText_item_zero _, rfl⟩
  have hgames : (League.gameWay 0).IsText (Json.opening "matches" ++ ['[']) :=
    ⟨_, _, Json.Record.reaches_opening (by simp [League.record, Json.Field.of]),
      Json.Way.isText_item_zero _, rfl⟩
  have hscore : (Match.scoreWay .home).IsText (Json.opening "home_score") :=
    Json.Record.reaches_opening (by simp [Match.record, Json.Field.of])
  exact ⟨[], oneMatchFront, Json.isBlank_nil, rfl,
    _, _, ⟨_, _, ⟨_, _, hcountries, hleagues, rfl⟩, hgames, rfl⟩, hscore, rfl⟩

theorem ofJson_oneMatch :
    ofJson (Json.textWith oneMatchFront 0 oneMatchBack).toUTF8 = .ok oneMatch := by
  have htext : Json.Source.ofString (Json.textWith oneMatchFront 0 oneMatchBack) =
      (oneMatchFront ++ ['0'] ++ oneMatchBack).map some := by
    rw [Json.Source.ofString, Json.textWith, String.toList_ofList]
    rfl
  have hread : (Json.document record.read ((oneMatchFront ++ ['0'] ++ oneMatchBack).map
      some)).toOption = some oneMatch := by decide +kernel
  rw [ofJson, Json.Source.ofBytes_toUTF8, htext]
  generalize Json.document record.read _ = read at hread ⊢
  cases read with
  | error e => cases hread
  | ok site => exact congrArg _ (Option.some.inj hread)

/-- A memory with a text of the document in which the home team has a number of goals. -/
def oneMatchMemory (n : Int) : Memory :=
  Memory.writeFile .empty "site.json" (Json.textWith oneMatchFront n oneMatchBack).toUTF8

theorem read_oneMatchMemory (n : Int) :
    (((Memory.storage : Storage (StateM Memory)).read "site.json").run (oneMatchMemory n)).1 =
      .ok (Json.textWith oneMatchFront n oneMatchBack).toUTF8 := by
  change (oneMatchMemory n).readFile "site.json" = _
  rw [oneMatchMemory, Memory.readFile_writeFile, if_pos rfl]

/-- What is loaded from this memory. -/
def loadedOneMatch (n : Int) : Except SiteError Site :=
  (((Memory.storage : Storage (StateM Memory)).loadSite "site.json").run (oneMatchMemory n)).1

theorem loadedOneMatch_zero : loadedOneMatch 0 = .ok oneMatch := by
  rw [loadedOneMatch, Storage.run_loadSite (read_oneMatchMemory 0), ofFile_eq_ok_iff]
  exact ofJson_oneMatch

/-- The greatest score is loaded as it is, and one of 65 bits is an error. -/
theorem loadedOneMatch_greatest :
    (loadedOneMatch 2147483647 = .ok ((NumberPlace.score 0 0 0 .home).put 2147483647 oneMatch) ∧
      (NumberPlace.score 0 0 0 .home).value?
        ((NumberPlace.score 0 0 0 .home).put 2147483647 oneMatch) = some 2147483647) ∧
    ∃ message, loadedOneMatch 18446744073709551616 = .error (.model message) := by
  have hback : Json.Source.EndsValue (oneMatchBack.map some) :=
    Json.Source.endsValue_cons (by decide) _
  have hload (n : Int) := Storage.loadSite_number _ isReachedBy_oneMatchFront hback
    (read_oneMatchMemory 0) loadedOneMatch_zero (read_oneMatchMemory n)
  have hfits : (NumberPlace.score 0 0 0 .home).Fits 2147483647 := ⟨by decide, by decide⟩
  have hbeyond : ¬ (NumberPlace.score 0 0 0 .home).Fits 18446744073709551616 :=
    fun h => absurd h.2 (by decide)
  exact ⟨(hload _).1 hfits, (hload _).2 hbeyond⟩

end Site

end Matchday
