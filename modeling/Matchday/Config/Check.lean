import Matchday.Config.Basic
import Matchday.Config.Placeholder
import Matchday.Decimal.Text
import Matchday.Error
import Matchday.Text.Blank
import Matchday.Url.Parse

/-!
# Checking settings

Settings are checked in a fixed order, and the first violation is reported under the name that the
setting has in a configuration file.

## Main definitions

* `Check.nonBlank`, `Check.url`, `Check.path`, `Check.range`: checks of single values.
* `Config.validate`: the check of all settings.
-/

namespace Matchday

namespace Check

/-- A value must not be blank. -/
def nonBlank (field value : String) : Except SiteError Unit :=
  if Text.isAllBlank value then
    .error (.invalidValue field value "Value cannot be empty or whitespace-only")
  else .ok ()

/-- Why a value is no URL of the web, if it is none. -/
def urlFault? [UrlReader] (value : String) : Option String :=
  if value.isEmpty then some "URL cannot be empty"
  else
    match UrlReader.parse value with
    | .error message => some s!"Invalid URL format: {message}"
    | .ok url =>
      if url.scheme = "http" || url.scheme = "https" then none
      else some s!"Unsupported URL scheme: {url.scheme}"

/-- A value must be a URL of the web. -/
def url [UrlReader] (field value : String) : Except SiteError Unit :=
  match urlFault? value with
  | some reason => .error (.invalidValue field value reason)
  | none => .ok ()

/-- A value must be fit for a path. -/
def path (field value : String) : Except SiteError Unit :=
  if value.isEmpty then .error (.invalidValue field value "Path cannot be empty")
  else if value.contains '\x00' then
    .error (.invalidValue field value "Path contains null bytes")
  else .ok ()

/-- Numbers with an order and a text. -/
structure Scale (α : Type) where
  atMost : α → α → Bool
  text : α → String

/-- Floating-point numbers; what is not a number is in no order. -/
def Scale.float : Scale Float where
  atMost a b := a <= b
  text := Decimal.plain

/-- Integers of 32 bits. -/
def Scale.int32 : Scale Int32 where
  atMost a b := a ≤ b
  text a := a.toInt.repr

/-- Integers of 64 bits without a sign. -/
def Scale.uint64 : Scale UInt64 where
  atMost a b := a ≤ b
  text a := a.toNat.repr

/-- A value must be within two bounds.  Something that is not a number is not. -/
def range {α : Type} (scale : Scale α) (field : String) (value min max : α) :
    Except SiteError Unit :=
  if scale.atMost min value && scale.atMost value max then .ok ()
  else
    .error (.invalidValue field (scale.text value)
      s!"Value must be between {scale.text min} and {scale.text max}")

end Check

namespace LeagueSetting

/-- Checks a league, whose settings stand under a field. -/
def validate (field : String) (l : LeagueSetting) : Except SiteError Unit := do
  Check.nonBlank s!"{field}.name" l.name
  Check.nonBlank s!"{field}.id" l.id

end LeagueSetting

/-- Checks the leagues of a country, of which `j` come before. -/
def validateLeagues (field : String) (j : Nat) : List LeagueSetting → Except SiteError Unit
  | [] => .ok ()
  | l :: ls => do
    l.validate s!"{field}.leagues[{j}]"
    validateLeagues field (j + 1) ls

namespace CountrySetting

/-- Checks a country.  `earlier` are the names of the countries before it. -/
def validate (field : String) (earlier : List String) (c : CountrySetting) :
    Except SiteError Unit := do
  Check.nonBlank s!"{field}.name" c.name
  Check.nonBlank s!"{field}.code" c.code
  if earlier.contains c.name then
    throw (.configValidation s!"{field}.name" s!"Country '{c.name}' is configured twice")
  validateLeagues field 0 c.leagues

end CountrySetting

/-- Checks countries.  `earlier` are the names of those before them. -/
def validateCountries (earlier : List String) : List CountrySetting → Except SiteError Unit
  | [] => .ok ()
  | c :: cs => do
    c.validate s!"fetch.countries[{earlier.length}]" earlier
    validateCountries (earlier ++ [c.name]) cs

namespace ApiSettings

/-- A key must be given, and no placeholder may be left in it. -/
def validateKey (key : String) : Except SiteError Unit := do
  Check.nonBlank "api.api_key" key
  if Placeholder.occursIn key then
    throw (.missingConfig s!"api.api_key ({key} is not set)")

/-- Checks the settings for the provider. -/
def validate [UrlReader] (api : ApiSettings) : Except SiteError Unit := do
  Check.url "api.base_url" api.baseUrl
  validateKey api.apiKey
  if let some seconds := api.timeoutSeconds then
    Check.range .uint64 "api.timeout_seconds" seconds 1 600

end ApiSettings

namespace FetchSettings

/-- Checks the settings for fetching. -/
def validate (fetch : FetchSettings) : Except SiteError Unit := do
  Check.range .int32 "fetch.season" fetch.season 1900 9998
  Check.range .float "fetch.min_success_rate" fetch.minSuccessRate 0 1
  if fetch.countries.isEmpty then throw (.missingConfig "fetch.countries")
  validateCountries [] fetch.countries

end FetchSettings

namespace OutputSettings

/-- Checks the settings for the output. -/
def validate (output : OutputSettings) : Except SiteError Unit := do
  Check.path "output.path" output.path
  Check.path "output.site_dir" output.siteDir
  if let some file := output.modelFile then
    Check.path "output.model_file" file

end OutputSettings

/-- The first violation, if there is one. -/
def Config.validate [UrlReader] (c : Config) : Except SiteError Unit := do
  Check.nonBlank "site.name" c.site.name
  c.api.validate
  c.fetch.validate
  c.output.validate

end Matchday
