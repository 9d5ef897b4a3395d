import Matchday.Storage.Memory
import Matchday.Proofs.Json.LeftOut

/-!
# Documents written and read back

A document is written as a JSON object, node by node.  Reading any text of that object gives the
document again, also when members are left out that hold their default value.

## Main definitions

* `Site.json`: a document as a JSON object.
* `Site.defaults`: the members that may be left out, with the values for which they may.
* `Storage.reload`: writes a text to a storage and loads the document in it.

## Main results

* `Site.ofJson_eq_ok`: a document is read from its texts.
* `Storage.reload_eq_ok`: a document that was written is loaded.
-/

namespace Matchday

open Json (KeepsMembers LeavesOut Reads)

/-! ### Writing -/

/-- A position as a document writes it. -/
def Position.json (p : Position) : Json :=
  .object [("line", .int p.line.toNat), ("column", .int p.column.toNat)]

/-- The members of a match but for its position. -/
def Match.members (m : Match) : List (String × Json) :=
  [("date", .text m.date), ("time", .text m.time), ("home_team", .text m.homeTeam),
    ("home_city", .text m.homeCity), ("away_team", .text m.awayTeam),
    ("away_city", .text m.awayCity), ("home_score", .int m.homeScore.toInt),
    ("away_score", .int m.awayScore.toInt), ("stadium", .text m.stadium)]

/-- A match as a document writes it. -/
def Match.json (m : Match) : Json :=
  .object (m.members ++ [("pos", m.pos.json)])

/-- A league as a document writes it. -/
def League.json (l : League) : Json :=
  .object [("name", .text l.name), ("season", .text l.season),
    ("matches", .array (l.games.map Match.json)), ("pos", l.pos.json)]

/-- A country as a document writes it. -/
def Country.json (c : Country) : Json :=
  .object [("name", .text c.name), ("leagues", .array (c.leagues.map League.json)),
    ("pos", c.pos.json)]

/-- An item of the navigation block as a document writes it. -/
def NavItem.json (i : NavItem) : Json :=
  .object [("name", .text i.name), ("pos", i.pos.json)]

/-- A navigation block as a document writes it. -/
def Navigation.json (n : Navigation) : Json :=
  .object [("items", .array (n.items.map NavItem.json)), ("pos", n.pos.json)]

/-- A document as a JSON object. -/
def Site.json (s : Site) : Json :=
  .object [("name", .text s.name), ("navigation", s.navigation.json),
    ("countries", .array (s.countries.map Country.json)), ("pos", s.pos.json)]

/-- The members that may be left out, with the values for which they may. -/
def Site.defaults : List (String × Json) :=
  [("navigation", Navigation.json {}), ("items", .array []), ("countries", .array []),
    ("leagues", .array []), ("matches", .array []), ("pos", Position.json {})]

/-! ### Default values -/

theorem Position.json_injective {p q : Position} (h : p.json = q.json) : p = q := by
  obtain ⟨line, column⟩ := p
  obtain ⟨line', column'⟩ := q
  simpa [json, UInt32.toNat_inj] using h

namespace Site

theorem eq_default_of_pos_mem {p : Position} (h : ("pos", p.json) ∈ defaults) : p = {} := by
  simp only [defaults, List.mem_cons, Prod.mk.injEq, String.reduceEq, false_and, false_or,
    true_and, List.not_mem_nil, or_false] at h
  exact Position.json_injective h

theorem eq_default_of_navigation_mem {n : Navigation} (h : ("navigation", n.json) ∈ defaults) :
    n = {} := by
  obtain ⟨items, pos⟩ := n
  simp only [defaults, Navigation.json, List.map_nil, List.mem_cons, Prod.mk.injEq, Json.object.injEq,
    List.cons.injEq, Json.array.injEq, List.map_eq_nil_iff, String.reduceEq, true_and, and_true,
    false_and, or_false, List.not_mem_nil] at h
  rw [h.1, Position.json_injective h.2]

/-- Lists are left out only when they are empty. -/
theorem eq_nil_of_mem_defaults {α : Type} {key : String} {xs : List α} {f : α → Json}
    (h : (key, Json.array (xs.map f)) ∈ defaults) : xs = [] := by
  simp only [defaults, Navigation.json, Position.json, List.mem_cons, Prod.mk.injEq, reduceCtorEq,
    and_false, Json.array.injEq, List.map_eq_nil_iff, List.not_mem_nil, or_false, false_or] at h
  rcases h with h | h | h | h <;> exact h.2

end Site

/-! ### Reading -/

section Reads

open Json.Record (Fills)

theorem Position.reads (p : Position) (j : Json) (h : LeavesOut Site.defaults p.json j) :
    Reads record.read j p := by
  cases h with | object h
  obtain ⟨ms, rfl, hms⟩ := h.of_required
    [("line", .int p.line.toNat), ("column", .int p.column.toNat)]
    (by simp [Site.defaults, Json.IsScalar])
  cases hms
  have hfills : record.Fills [("line", .int p.line.toNat), ("column", .int p.column.toNat)] {}
      { line := some p.line, column := some p.column } :=
    .cons rfl rfl ((Json.reads_uint32 p.line).fill ..) <|
      .cons rfl rfl ((Json.reads_uint32 p.column).fill ..) (.nil _)
  exact Json.Record.reads hfills rfl

/-- The draft of a match, with a position or without one. -/
def Match.draft (m : Match) (pos : Option Position) : Draft where
  date := m.date
  time := m.time
  homeTeam := m.homeTeam
  homeCity := m.homeCity
  awayTeam := m.awayTeam
  awayCity := m.awayCity
  homeScore := m.homeScore
  awayScore := m.awayScore
  stadium := m.stadium
  pos

/-- The members of a match fill all fields of its draft but the position. -/
theorem Match.fills_members (m : Match) {ms : List (String × Json)} {draft : Draft}
    (h : record.Fills ms (m.draft none) draft) : record.Fills (m.members ++ ms) {} draft :=
  .cons rfl rfl ((Json.reads_string m.date).fill ..) <|
  .cons rfl rfl ((Json.reads_string m.time).fill ..) <|
  .cons rfl rfl ((Json.reads_string m.homeTeam).fill ..) <|
  .cons rfl rfl ((Json.reads_string m.homeCity).fill ..) <|
  .cons rfl rfl ((Json.reads_string m.awayTeam).fill ..) <|
  .cons rfl rfl ((Json.reads_string m.awayCity).fill ..) <|
  .cons rfl rfl ((Json.reads_int32 m.homeScore).fill ..) <|
  .cons rfl rfl ((Json.reads_int32 m.awayScore).fill ..) <|
  .cons rfl rfl ((Json.reads_string m.stadium).fill ..) h

theorem Match.reads (m : Match) (j : Json) (h : LeavesOut Site.defaults m.json j) :
    Reads record.read j m := by
  cases h with | object h
  obtain ⟨ms, rfl, hms⟩ := h.of_required m.members (by simp [members, Site.defaults, Json.IsScalar])
  obtain ⟨pos, hpos, ms₁, hms₁, hfill⟩ := Fills.of_optional hms record m.draft rfl rfl rfl
    (Position.reads m.pos) Site.eq_default_of_pos_mem
  cases hms₁
  refine Json.Record.reads (m.fills_members (hfill _ (.nil _))) ?_
  exact congrArg (fun pos => Except.ok { m with pos }) hpos

theorem League.reads (l : League) (j : Json) (h : LeavesOut Site.defaults l.json j) :
    Reads record.read j l := by
  obtain ⟨name, season, games, pos⟩ := l
  cases h with | object h
  obtain ⟨ms, rfl, hms⟩ := h.of_required [("name", .text name), ("season", .text season)]
    (by simp [Site.defaults, Json.IsScalar])
  obtain ⟨games, rfl, ms₁, hms₁, hfill₁⟩ := Fills.of_optional hms record
    (fun games => { name, season, games }) rfl rfl rfl
    (Json.reads_list_of_leavesOut (fun m => ⟨_, rfl⟩) Match.reads games)
    Site.eq_nil_of_mem_defaults
  obtain ⟨pos, rfl, ms₂, hms₂, hfill₂⟩ := Fills.of_optional hms₁ record
    (fun pos => { name, season, games, pos }) rfl rfl rfl (Position.reads pos)
    Site.eq_default_of_pos_mem
  cases hms₂
  have hfills : record.Fills ([("name", .text name), ("season", .text season)] ++ ms) {}
      { name, season, games, pos } :=
    .cons rfl rfl ((Json.reads_string name).fill ..) <|
    .cons rfl rfl ((Json.reads_string season).fill ..) <|
    hfill₁ _ (hfill₂ _ (.nil _))
  exact Json.Record.reads hfills rfl

theorem Country.reads (c : Country) (j : Json) (h : LeavesOut Site.defaults c.json j) :
    Reads record.read j c := by
  obtain ⟨name, leagues, pos⟩ := c
  cases h with | object h
  obtain ⟨ms, rfl, hms⟩ := h.of_required [("name", .text name)]
    (by simp [Site.defaults, Json.IsScalar])
  obtain ⟨leagues, rfl, ms₁, hms₁, hfill₁⟩ := Fills.of_optional hms record
    (fun leagues => { name, leagues }) rfl rfl rfl
    (Json.reads_list_of_leavesOut (fun l => ⟨_, rfl⟩) League.reads leagues)
    Site.eq_nil_of_mem_defaults
  obtain ⟨pos, rfl, ms₂, hms₂, hfill₂⟩ := Fills.of_optional hms₁ record
    (fun pos => { name, leagues, pos }) rfl rfl rfl (Position.reads pos)
    Site.eq_default_of_pos_mem
  cases hms₂
  have hfills : record.Fills ([("name", .text name)] ++ ms) {} { name, leagues, pos } :=
    .cons rfl rfl ((Json.reads_string name).fill ..) (hfill₁ _ (hfill₂ _ (.nil _)))
  exact Json.Record.reads hfills rfl

theorem NavItem.reads (i : NavItem) (j : Json) (h : LeavesOut Site.defaults i.json j) :
    Reads record.read j i := by
  obtain ⟨name, pos⟩ := i
  cases h with | object h
  obtain ⟨ms, rfl, hms⟩ := h.of_required [("name", .text name)]
    (by simp [Site.defaults, Json.IsScalar])
  obtain ⟨pos, rfl, ms₁, hms₁, hfill⟩ := Fills.of_optional hms record
    (fun pos => { name, pos }) rfl rfl rfl (Position.reads pos) Site.eq_default_of_pos_mem
  cases hms₁
  have hfills : record.Fills ([("name", .text name)] ++ ms) {} { name, pos } :=
    .cons rfl rfl ((Json.reads_string name).fill ..) (hfill _ (.nil _))
  exact Json.Record.reads hfills rfl

theorem Navigation.reads (n : Navigation) (j : Json) (h : LeavesOut Site.defaults n.json j) :
    Reads record.read j n := by
  obtain ⟨items, pos⟩ := n
  cases h with | object h
  obtain ⟨items, rfl, ms₁, hms₁, hfill₁⟩ := Fills.of_optional h record
    (fun items => { items }) rfl rfl rfl
    (Json.reads_list_of_leavesOut (fun i => ⟨_, rfl⟩) NavItem.reads items)
    Site.eq_nil_of_mem_defaults
  obtain ⟨pos, rfl, ms₂, hms₂, hfill₂⟩ := Fills.of_optional hms₁ record
    (fun pos => { items, pos }) rfl rfl rfl (Position.reads pos) Site.eq_default_of_pos_mem
  cases hms₂
  exact Json.Record.reads (hfill₁ _ (hfill₂ _ (.nil _))) rfl

theorem Site.reads (s : Site) (j : Json) (h : LeavesOut Site.defaults s.json j) :
    Reads record.read j s := by
  obtain ⟨name, navigation, countries, pos⟩ := s
  cases h with | object h
  obtain ⟨ms, rfl, hms⟩ := h.of_required [("name", .text name)]
    (by simp [Site.defaults, Json.IsScalar])
  obtain ⟨navigation, rfl, ms₁, hms₁, hfill₁⟩ := Fills.of_optional hms record
    (fun navigation => { name, navigation }) rfl rfl rfl (Navigation.reads navigation)
    Site.eq_default_of_navigation_mem
  obtain ⟨countries, rfl, ms₂, hms₂, hfill₂⟩ := Fills.of_optional hms₁ record
    (fun countries => { name, navigation, countries }) rfl rfl rfl
    (Json.reads_list_of_leavesOut (fun c => ⟨_, rfl⟩) Country.reads countries)
    Site.eq_nil_of_mem_defaults
  obtain ⟨pos, rfl, ms₃, hms₃, hfill₃⟩ := Fills.of_optional hms₂ record
    (fun pos => { name, navigation, countries, pos }) rfl rfl rfl (Position.reads pos)
    Site.eq_default_of_pos_mem
  cases hms₃
  have hfills : record.Fills ([("name", .text name)] ++ ms) {}
      { name, navigation, countries, pos } :=
    .cons rfl rfl ((Json.reads_string name).fill ..)
      (hfill₁ _ (hfill₂ _ (hfill₃ _ (.nil _))))
  exact Json.Record.reads hfills rfl

end Reads

/-- **A document is read from its texts**, also without members that hold their default value. -/
theorem Site.ofJson_eq_ok {s : Site} {j : Json} (hj : LeavesOut Site.defaults s.json j)
    {text : String} (htext : j.IsText text) : Site.ofJson text.toUTF8 = .ok s :=
  (s.reads j hj).document_eq htext

/-! ### Storing -/

namespace Storage

variable {σ : Type}

/-- Writes a text to a storage and loads the document in it. -/
def reload (storage : Storage (StateM σ)) (path text : String) :
    StateM σ (Except SiteError Site) := do
  let _ ← storage.write path text.toUTF8
  storage.loadSite path

/-- A storage gives back what was just written to a path. -/
def Returns (storage : Storage (StateM σ)) (path : String) (s : σ) : Prop :=
  ∀ content, ((storage.read path).run ((storage.write path content).run s).2).1 = .ok content

/-- A document is loaded from the bytes of its file. -/
theorem run_loadSite {storage : Storage (StateM σ)} {path : String} {bytes : ByteArray} {s : σ}
    (hread : ((storage.read path).run s).1 = .ok bytes) :
    ((storage.loadSite path).run s).1 = Site.ofFile path bytes := by
  change ((storage.read path).run s).1.bind (Site.ofFile path) = _
  rw [hread]
  rfl

/-- A document is loaded from a storage that has one of its texts. -/
theorem loadSite_eq_ok {storage : Storage (StateM σ)} {path text : String} {s : σ}
    (hread : ((storage.read path).run s).1 = .ok text.toUTF8) {site : Site} {j : Json}
    (hj : LeavesOut Site.defaults site.json j) (htext : j.IsText text) :
    ((storage.loadSite path).run s).1 = .ok site := by
  rw [run_loadSite hread, Site.ofFile, Site.ofJson_eq_ok hj htext]
  rfl

/-- **A document that was written is loaded.**  This holds for its text without blanks and for the
one with an item a line, and for every text in which any members are left out that hold their
default value. -/
theorem reload_eq_ok {storage : Storage (StateM σ)} {path : String} {s : σ}
    (hreturns : storage.Returns path s) (site : Site) :
    ((storage.reload path site.json.compact).run s).1 = .ok site ∧
      ((storage.reload path site.json.pretty).run s).1 = .ok site ∧
      ∀ j, LeavesOut Site.defaults site.json j → ∀ text, j.IsText text →
        ((storage.reload path text).run s).1 = .ok site := by
  have hload (j : Json) (hj : LeavesOut Site.defaults site.json j) (text : String)
      (htext : j.IsText text) : ((storage.reload path text).run s).1 = .ok site :=
    loadSite_eq_ok (hreturns text.toUTF8) hj htext
  exact ⟨hload _ (.refl _ _) _ (Json.isText_compact _), hload _ (.refl _ _) _ (Json.isText_pretty _),
    hload⟩

end Storage

/-- A memory gives back what was just written to it. -/
theorem Memory.returns_storage (path : String) (memory : Memory) :
    Memory.storage.Returns path memory := by
  intro content
  change (memory.writeFile path content).readFile path = _
  rw [readFile_writeFile, if_pos rfl]

/-- A document of which only the name is written, with a quote, a backslash and control
characters. -/
theorem Memory.reload_name :
    ((Memory.storage.reload "site.json"
        (Json.object [("name", .text "\"\\\t\x01")]).compact).run .empty).1 =
      .ok { name := "\"\\\t\x01" } := by
  have hleft : LeavesOut Site.defaults (Site.json { name := "\"\\\t\x01" })
      (.object [("name", .text "\"\\\t\x01")]) :=
    .object (.keep (.text _) (.drop (by simp [Site.defaults]) (.drop (by simp [Site.defaults])
      (.drop (by simp [Site.defaults]) .nil))))
  exact (Storage.reload_eq_ok (Memory.returns_storage "site.json" .empty) _).2.2 _ hleft _
    (Json.isText_compact _)

end Matchday
