import Matchday.Proofs.Page.ReadBack
import Mathlib.Data.List.Forall2

/-!
# Where the navigation leads

All pages of a site share one list of countries, whose entries name countries and leagues together
with their slugs.  Reading this list in order gives the pages of the site in order: no entry is
without its page, and apart from the index page no page is without its entry.

## Main definitions

* `Json.link?`: the name and the slug of an entry.
* `Page.AnswersCountry`, `Page.AnswersLeague`: a page that an entry links to.
* `Page.AnswerEntry`: the page that the entry of a country links to, with those of its leagues.

## Main results

* `Site.pages_answer_countryList`: the pages of a site answer the list of countries that they share.
-/

namespace Matchday

/-- What an entry of the navigation links to. -/
structure Link where
  name : String
  slug : String

/-- The link in an entry of the navigation. -/
def Json.link? (entry : Json) : Option Link := do
  return { name := ← entry.textAt? "name", slug := ← entry.textAt? "slug" }

namespace Page

/-- The page of the country that an entry links to.  It lists the same leagues. -/
structure AnswersCountry (country : Link) (leagues : List Json) (p : Page) : Prop where
  kind_eq : p.kind = .country
  path_eq : p.path = "/" ++ country.slug ++ "/"
  countryName_eq : p.json.textAt? "countryName" = some country.name
  leagues_eq : p.json.member? "leagues" = some (.array leagues)

/-- The page of the league that an entry below the one of its country links to. -/
structure AnswersLeague (country : Link) (entry : Json) (p : Page) : Prop where
  kind_eq : p.kind = .league
  countryName_eq : p.json.textAt? "countryName" = some country.name
  countrySlug_eq : p.json.textAt? "countrySlug" = some country.slug
  link_eq : ∃ league, entry.link? = some league ∧
    p.path = "/" ++ country.slug ++ "/" ++ league.slug ++ "/" ∧
    p.json.textAt? "leagueName" = some league.name ∧
    p.json.textAt? "leagueSlug" = some league.slug
  season_eq : ∃ season, entry.textAt? "season" = some season ∧
    p.json.textAt? "season" = some season

/-- The page of the country that an entry links to, then the pages of its leagues in order. -/
def AnswerEntry (entry : Json) (pages : List Page) : Prop :=
  ∃ country leagues, entry.link? = some country ∧
    entry.member? "leagues" = some (.array leagues) ∧
    ∃ p ps, pages = p :: ps ∧ p.AnswersCountry country leagues ∧
      List.Forall₂ (AnswersLeague country) leagues ps

end Page

namespace Site

variable (s : Site)

theorem answersLeague_leaguePage (c : Country) (l : League) :
    (s.leaguePage c l).AnswersLeague ⟨c.name, slug c.name⟩ l.summary where
  kind_eq := rfl
  countryName_eq := rfl
  countrySlug_eq := rfl
  link_eq := ⟨⟨l.name, slug l.name⟩, rfl, rfl, rfl, rfl⟩
  season_eq := ⟨l.season, rfl, rfl⟩

theorem answersCountry_countryPage (c : Country) :
    (s.countryPage c).AnswersCountry ⟨c.name, slug c.name⟩ (c.leagues.map League.summary) where
  kind_eq := rfl
  path_eq := rfl
  countryName_eq := rfl
  leagues_eq := rfl

/-- The pages of a country answer its entry. -/
theorem answerEntry_countryPages (c : Country) :
    Page.AnswerEntry c.summary (s.countryPages c) := by
  refine ⟨⟨c.name, slug c.name⟩, c.leagues.map League.summary, rfl, rfl, s.countryPage c,
    c.leagues.map (s.leaguePage c), rfl, s.answersCountry_countryPage c, ?_⟩
  rw [List.forall₂_map_left_iff, List.forall₂_map_right_iff, List.forall₂_same]
  exact fun l _ => s.answersLeague_leaguePage c l

/-- All pages carry the list of countries. -/
theorem countries_eq_of_mem_pages {p : Page} (hp : p ∈ s.pages) :
    p.json.member? "countries" = some s.countryList := by
  rcases List.mem_cons.1 hp with rfl | hp
  · rfl
  · obtain ⟨c, -, hp⟩ := List.mem_flatMap.1 hp
    rcases List.mem_cons.1 hp with rfl | hp
    · rfl
    · obtain ⟨l, -, rfl⟩ := List.mem_map.1 hp
      rfl

/-- **The pages of a site answer the list of countries that they share.**  Behind the index page,
each entry of the list has the page of its country followed by the pages of its leagues, and there
are no other pages. -/
theorem pages_answer_countryList :
    ∃ entries, (∀ p ∈ s.pages, p.json.member? "countries" = some (.array entries)) ∧
      (∃ index answers, s.pages = index :: answers.flatten ∧ index.kind = .index ∧
        index.path = "/" ∧ List.Forall₂ Page.AnswerEntry entries answers) ∧
      entries.length = s.countries.length ∧
      s.pages.length = 1 + s.countries.length + s.leagues.length := by
  refine ⟨s.countries.map Country.summary, fun p hp => s.countries_eq_of_mem_pages hp,
    ⟨s.indexPage, s.countries.map s.countryPages, ?_, rfl, rfl, ?_⟩, List.length_map _,
    s.pages_length⟩
  · rw [pages, List.flatMap_def]
  · rw [List.forall₂_map_left_iff, List.forall₂_map_right_iff, List.forall₂_same]
    exact fun c _ => s.answerEntry_countryPages c

end Site

end Matchday
