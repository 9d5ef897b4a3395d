import Matchday.Config.Read
import Matchday.Proofs.Config.Requirement

/-!
# Variables that are not set

A variable that is not set leaves its placeholder in the settings.  The check reports it when it
stands in the key for the provider, which it looks through for placeholders.  In all other texts a
placeholder is a text like any other.

## Main definitions

* `Config.checkedTexts`: the texts that the check looks at.
* `Config.relabel`: settings with one text in place of most of the others.

## Main results

* `Config.exists_error_of_mem_names_apiKey`: a placeholder that is left in the key is an error.
* `Config.validate_placeholder`: a placeholder in place of the key is reported, one in place of the
  other texts is not.
* `Config.unset_passes`: a variable that is not set can pass the check.
-/

namespace Matchday

/-- A placeholder is no blank text. -/
theorem Placeholder.IsWritten.hasInk {text : String} (h : Placeholder.IsWritten text.toList) :
    Text.HasInk text := by
  obtain ⟨before, name, after, -, htext⟩ := h
  refine ⟨'$', ?_, by decide⟩
  rw [htext, Placeholder.Part.source]
  simp

/-- The texts that the check looks at. -/
def Config.checkedTexts (c : Config) : List String :=
  [c.site.name, c.api.baseUrl, c.api.apiKey] ++
  c.fetch.countries.flatMap (fun country =>
    country.name :: country.code :: country.leagues.flatMap fun l => [l.name, l.id]) ++
  [c.output.path, c.output.siteDir] ++ c.output.modelFile.toList

/-- A country whose code and leagues have another text. -/
def CountrySetting.relabel (text : String) (c : CountrySetting) : CountrySetting :=
  { c with code := text, leagues := c.leagues.map fun _ => ⟨text, text⟩ }

/-- Settings with one text in place of the name of the site, of the codes of countries, of the names
and codes of leagues, and of the paths of the output. -/
def Config.relabel (text : String) (c : Config) : Config :=
  { c with
    site := ⟨text⟩
    fetch := { c.fetch with countries := c.fetch.countries.map (·.relabel text) }
    output := ⟨text, text, c.output.modelFile.map fun _ => text⟩ }

theorem CountrySetting.IsNamed.relabel {c : CountrySetting} {text : String} (h : c.IsNamed)
    (htext : Text.HasInk text) : (c.relabel text).IsNamed where
  name := h.name
  code := htext
  leagues := List.forall_mem_map.2 fun _ _ => ⟨htext, htext⟩

section

variable [UrlReader]

/-- **A placeholder that is left in the key is an error**, whatever else is wrong. -/
theorem Config.exists_error_of_mem_names_apiKey {c : Config} {name : String}
    (h : name ∈ Placeholder.names c.api.apiKey) : ∃ e, c.validate = .error e := by
  have hoccurs : Placeholder.occursIn c.api.apiKey :=
    List.any_eq_true.2 ⟨_, Placeholder.mem_names_iff.1 h, rfl⟩
  cases hcheck : c.validate with
  | error e => exact ⟨e, rfl⟩
  | ok _ =>
    have hvalid := c.validate_eq_ok_iff_valid.1 hcheck
    exact absurd (Placeholder.occursIn_iff_isWritten.1 hoccurs) hvalid.apiKey_set

/-- The check asks of these texts only that they are not blank, and are fit for a path. -/
theorem Config.Valid.relabel {c : Config} {text : String} (h : c.Valid) (hink : Text.HasInk text)
    (hpath : Check.IsPath text) : (c.relabel text).Valid where
  siteName := hink
  baseUrl := h.baseUrl
  apiKey := h.apiKey
  apiKey_set := h.apiKey_set
  timeout := h.timeout
  season := h.season
  minSuccessRate := h.minSuccessRate
  countries_ne_nil := mt List.map_eq_nil_iff.1 h.countries_ne_nil
  countries_named := List.forall_mem_map.2 fun country hcountry =>
    (h.countries_named country hcountry).relabel hink
  countries_nodup := by
    rw [Config.relabel, List.map_map]
    exact h.countries_nodup
  outputPath := hpath
  siteDir := hpath
  modelFile := by
    intro file hfile
    obtain ⟨_, -, rfl⟩ := Option.map_eq_some_iff.1 hfile
    exact hpath

/-- **Where a placeholder is reported.**  In settings that pass the check, a text with a placeholder
in place of the key is reported as a variable that is not set.  In place of the other texts it
passes. -/
theorem Config.validate_placeholder {c : Config} {text : String} (h : c.validate = .ok ())
    (hwritten : Placeholder.IsWritten text.toList) (hnul : '\x00' ∉ text.toList) :
    ({ c with api.apiKey := text } : Config).validate =
        .error (.missingConfig s!"api.api_key ({text} is not set)") ∧
      (c.relabel text).validate = .ok () := by
  have hvalid := c.validate_eq_ok_iff_valid.1 h
  have hink := hwritten.hasInk
  constructor
  · refine (Config.decides_validate _).eq_error_iff.2
      ⟨[.nonBlank "site.name" c.site.name] ++ Requirement.webUrl "api.base_url" c.api.baseUrl ++
        [.nonBlank "api.api_key" text], _, _, rfl, ?_, not_not_intro hwritten, rfl⟩
    simp only [Requirement.webUrl, List.forall_mem_append, List.forall_mem_singleton,
      List.forall_mem_cons]
    exact ⟨⟨hvalid.siteName, hvalid.baseUrl.ne_empty, hvalid.baseUrl⟩, hink⟩
  · exact (Config.validate_eq_ok_iff_valid _).2 (hvalid.relabel hink ⟨hink.ne_empty, hnul⟩)

end

deriving instance DecidableEq for FetchSettings, Config

/-- A file with little more than the name of the site. -/
def Config.bareText (siteName : String) : String :=
  "site.name = \"" ++ siteName ++ "\"\n" ++
  "api = \x7b base_url = \"https://example.org\", api_key = \"key\" \x7d\n" ++
  "output.path = \"out\"\n[fetch]\nseason = 2025\n[[fetch.countries]]\n" ++
  "name = \"Spain\"\ncode = \"ES\"\nleagues = []\n"

/-- The settings in that file. -/
def Config.bare (siteName : String) : Config where
  site := ⟨siteName⟩
  api := { baseUrl := "https://example.org", apiKey := "key" }
  fetch := { season := 2025, countries := [⟨"Spain", "ES", []⟩] }
  output := { path := "out" }

theorem Config.validate_bare {siteName : String} (h : Text.HasInk siteName) :
    (bare siteName).validate = .ok () := by
  have hapi : (bare "").api.validate = .ok () := by decide +kernel
  have hfetch : (bare "").fetch.validate = .ok () := by decide +kernel
  have hpath : Check.IsPath "out" := ⟨by decide, by decide⟩
  have hdir : Check.IsPath "site" := ⟨by decide, by decide⟩
  exact validate_eq_ok_iff.2
    ⟨h, hapi, FetchSettings.validate_eq_ok_iff.1 hfetch, ⟨hpath, hdir, nofun⟩⟩

theorem Config.bare_validate_placeholder :
    ({ bare "Results" with api.apiKey := "$\x7bKEY\x7d" } : Config).validate =
        .error (.missingConfig "api.api_key ($\x7bKEY\x7d is not set)") ∧
      ((bare "Results").relabel "$\x7bKEY\x7d").validate = .ok () :=
  have hwritten : Placeholder.IsWritten "$\x7bKEY\x7d".toList :=
    Placeholder.occursIn_iff_isWritten.1 (by decide)
  validate_placeholder (validate_bare ⟨'R', by decide, by decide⟩) hwritten (by decide)

/-- **A variable that is not set can pass the check**: in the name of the site. -/
theorem Config.unset_passes :
    ¬ ∀ (env : String → Option String) (s : String) (c : Config), ofText env s = .ok c →
      (∃ text ∈ c.checkedTexts, ∃ name ∈ Placeholder.names text, env name = none) →
      ∃ e, c.validate = .error e := by
  intro h
  have hread : ofText (fun _ => none) (bareText "$\x7bSITE_NAME\x7d") =
      .ok (bare "$\x7bSITE_NAME\x7d") := by decide +kernel
  have hname : "SITE_NAME" ∈ Placeholder.names "$\x7bSITE_NAME\x7d" := by decide +kernel
  obtain ⟨e, he⟩ := h _ _ _ hread ⟨_, List.mem_cons_self, _, hname, rfl⟩
  cases he.symm.trans (validate_bare ⟨'$', by decide, by decide⟩)

end Matchday
