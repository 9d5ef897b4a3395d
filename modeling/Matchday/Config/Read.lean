import Matchday.Config.Basic
import Matchday.Config.Placeholder
import Matchday.Error
import Matchday.Toml.Decode
import Matchday.Toml.Reader

/-!
# Reading settings

The text of a configuration file: placeholders are replaced first, then the text is read.

## Main definitions

* `Config.ofToml?`: the settings in a text without placeholders.
* `Config.ofText`: the settings in a text, with the variables of an environment.
-/

namespace Matchday

open Toml (Value)

namespace LeagueSetting

/-- A league from its table. -/
def ofValue? (v : Value) : Option LeagueSetting := do
  let fs ← Toml.fields? v
  return {
    name := ← fs.required 0 "name" Toml.text?
    id := ← fs.required 1 "id" Toml.text? }

end LeagueSetting

namespace CountrySetting

/-- A country from its table. -/
def ofValue? (v : Value) : Option CountrySetting := do
  let fs ← Toml.fields? v
  return {
    name := ← fs.required 0 "name" Toml.text?
    code := ← fs.required 1 "code" Toml.text?
    leagues := ← fs.required 2 "leagues" (Toml.list? LeagueSetting.ofValue?) }

end CountrySetting

namespace SiteSettings

/-- The settings for the site from their table. -/
def ofValue? (v : Value) : Option SiteSettings := do
  let fs ← Toml.fields? v
  return { name := ← fs.required 0 "name" Toml.text? }

end SiteSettings

namespace ApiSettings

/-- The settings for the provider from their table. -/
def ofValue? (v : Value) : Option ApiSettings := do
  let fs ← Toml.fields? v
  return {
    baseUrl := ← fs.required 0 "base_url" Toml.text?
    apiKey := ← fs.required 1 "api_key" Toml.text?
    timeoutSeconds := ← fs.optional 2 "timeout_seconds" Toml.uint64?
    teamCities := .ofList (← fs.withDefault 3 "team_cities" [] Toml.texts?) }

end ApiSettings

namespace FetchSettings

/-- The settings for fetching from their table. -/
def ofValue? (v : Value) : Option FetchSettings := do
  let fs ← Toml.fields? v
  return {
    season := ← fs.required 0 "season" Toml.int32?
    minSuccessRate := ← fs.withDefault 1 "min_success_rate" 0.5 Toml.float64?
    fallbackToSample := ← fs.withDefault 2 "fallback_to_sample" false Toml.bool?
    countries := ← fs.required 3 "countries" (Toml.list? CountrySetting.ofValue?) }

end FetchSettings

namespace OutputSettings

/-- The settings for the output from their table. -/
def ofValue? (v : Value) : Option OutputSettings := do
  let fs ← Toml.fields? v
  return {
    path := ← fs.required 0 "path" Toml.text?
    siteDir := ← fs.withDefault 1 "site_dir" "site" Toml.text?
    modelFile := ← fs.optional 2 "model_file" Toml.text? }

end OutputSettings

namespace MonitoringSettings

/-- The settings for monitoring from their table. -/
def ofValue? (v : Value) : Option MonitoringSettings := do
  let fs ← Toml.fields? v
  return { enabled := ← fs.required 0 "enabled" Toml.bool? }

end MonitoringSettings

namespace Config

/-- All settings from the entries of a file. -/
def ofEntries? (entries : List (String × Value)) : Option Config := do
  let fs : Toml.Fields := .named entries
  return {
    site := ← fs.required 0 "site" SiteSettings.ofValue?
    api := ← fs.required 1 "api" ApiSettings.ofValue?
    fetch := ← fs.required 2 "fetch" FetchSettings.ofValue?
    output := ← fs.required 3 "output" OutputSettings.ofValue?
    monitoring := ← fs.optional 4 "monitoring" MonitoringSettings.ofValue? }

/-- The settings in a text without placeholders. -/
def ofToml? (s : String) : Option Config :=
  (Toml.read? s).bind ofEntries?

/-- The settings in a text whose placeholders stand for variables of an environment. -/
def ofText (env : String → Option String) (s : String) : Except SiteError Config :=
  match ofToml? (Placeholder.substitute env s) with
  | some config => .ok config
  | none => .error (.configValidation "toml_parsing" "TOML parsing error:")

end Config

end Matchday
