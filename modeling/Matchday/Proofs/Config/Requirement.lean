import Matchday.Proofs.Config.Placeholder
import Matchday.Proofs.Config.Valid
import Matchday.Proofs.Decimal.Amount

/-!
# What is asked of settings, one thing after another

The check of the settings is a list of requirements, each with the error that is reported when it is
not met.  The list is written down here for all settings at once, without any stopping; the check
goes through it and reports the first requirement that is not met.

## Main definitions

* `Requirement`, `Requirement.Decides`: a requirement, and the outcome that a list of them has.
* `Config.requirements`: what is asked of settings, in the order of the check.
* `Config.Valid`: settings of which all of this is true, without the order.

## Main results

* `Requirement.Decides.append`: lists of requirements one after another.
* `Config.decides_validate`: the outcome of the check is that of the list.
* `Config.validate_eq_ok_iff_valid`: the check passes exactly the valid settings.
* `Config.validate_reports`: and otherwise it reports the first requirement that is not met.
-/

namespace Matchday

/-- Something that is asked of settings, and what is reported when it is not met. -/
structure Requirement where
  Holds : Prop
  error : SiteError

namespace Requirement

/-- The outcome of requirements that are looked at one after another, up to the first one that is
not met. -/
inductive Decides : List Requirement → Except SiteError Unit → Prop
  | done : Decides [] (.ok ())
  | met {r rs x} (h : r.Holds) (hrs : Decides rs x) : Decides (r :: rs) x
  | broken {r rs} (h : ¬ r.Holds) : Decides (r :: rs) (.error r.error)

namespace Decides

variable {rs : List Requirement} {x : Except SiteError Unit} {e : SiteError}

/-- A single requirement, looked at by a test. -/
theorem single {r : Requirement} {p : Prop} [Decidable p] (h : r.Holds ↔ ¬ p) :
    Decides [r] (if p then .error r.error else .ok ()) := by
  split
  next hp => exact .broken fun hr => h.1 hr hp
  next hp => exact .met (h.2 hp) .done

/-- A requirement that is looked at by a test, before others. -/
theorem guarded {r : Requirement} {p : Prop} [Decidable p] (h : r.Holds ↔ ¬ p)
    (hrs : Decides rs x) :
    Decides (r :: rs) (if p then throw r.error >>= fun _ : Unit => x else x) := by
  split
  next hp => exact .broken fun hr => h.1 hr hp
  next hp => exact .met (h.2 hp) hrs

/-- **Lists of requirements one after another** are decided one after another. -/
theorem append {rs' : List Requirement} {y : Except SiteError Unit} (h : Decides rs x)
    (h' : Decides rs' y) : Decides (rs ++ rs') (x >>= fun _ => y) := by
  induction h with
  | done => exact h'
  | met hr _ ih => exact .met hr ih
  | broken hr => exact .broken hr

theorem eq_ok_iff (h : Decides rs x) : x = .ok () ↔ ∀ r ∈ rs, r.Holds := by
  induction h with
  | done => simp
  | met hr _ ih => rw [ih, List.forall_mem_cons, and_iff_right hr]
  | broken hr => exact iff_of_false nofun fun hall => hr (hall _ List.mem_cons_self)

/-- **An error is that of the first requirement that is not met.** -/
theorem eq_error_iff (h : Decides rs x) :
    x = .error e ↔ ∃ before r after, rs = before ++ r :: after ∧ (∀ q ∈ before, q.Holds) ∧
      ¬ r.Holds ∧ r.error = e := by
  induction h with
  | done => simp
  | @met r rs x hr _ ih =>
    rw [ih]
    constructor
    · rintro ⟨before, q, after, rfl, hbefore, hq, rfl⟩
      exact ⟨r :: before, q, after, rfl, List.forall_mem_cons.2 ⟨hr, hbefore⟩, hq, rfl⟩
    · rintro ⟨before, q, after, heq, hbefore, hq, rfl⟩
      cases before with
      | nil =>
        obtain ⟨rfl, -⟩ := List.cons.inj heq
        exact absurd hr hq
      | cons r' before =>
        obtain ⟨-, rfl⟩ := List.cons.inj heq
        exact ⟨before, q, after, rfl, (List.forall_mem_cons.1 hbefore).2, hq, rfl⟩
  | @broken r rs hr =>
    constructor
    · intro heq
      exact ⟨[], r, rs, rfl, by simp, hr, Except.error.inj heq⟩
    · rintro ⟨before, q, after, heq, hbefore, hq, rfl⟩
      cases before with
      | nil =>
        obtain ⟨rfl, -⟩ := List.cons.inj heq
        rfl
      | cons r' before =>
        obtain ⟨rfl, -⟩ := List.cons.inj heq
        exact absurd (List.forall_mem_cons.1 hbefore).1 hr

end Decides

/-! ### Single values -/

/-- A value is not blank. -/
def nonBlank (field value : String) : Requirement where
  Holds := Text.HasInk value
  error := .invalidValue field value "Value cannot be empty or whitespace-only"

theorem decides_nonBlank (field value : String) :
    Decides [nonBlank field value] (Check.nonBlank field value) := by
  refine .single ?_
  rw [Bool.not_eq_true]
  exact Text.isAllBlank_eq_false_iff.symm

end Requirement

section

variable [UrlReader]

/-- A text that is the URL of something in the web. -/
def Check.IsWebUrl (value : String) : Prop :=
  ∃ url, UrlReader.parse value = .ok url ∧ (url.scheme = "http" ∨ url.scheme = "https")

/-- What is wrong with a text that is no such URL. -/
def Check.urlComplaint (value : String) : String :=
  match UrlReader.parse value with
  | .error message => s!"Invalid URL format: {message}"
  | .ok url => s!"Unsupported URL scheme: {url.scheme}"

namespace Requirement

/-- A value is the URL of something in the web. -/
def webUrl (field value : String) : List Requirement := [
  ⟨value ≠ "", .invalidValue field value "URL cannot be empty"⟩,
  ⟨Check.IsWebUrl value, .invalidValue field value (Check.urlComplaint value)⟩]

theorem decides_webUrl (field value : String) :
    Decides (webUrl field value) (Check.url field value) := by
  rw [Check.url, Check.urlFault?, webUrl]
  by_cases hempty : value = ""
  · rw [if_pos (String.isEmpty_iff.2 hempty)]
    exact .broken (not_not_intro hempty)
  · rw [if_neg (mt String.isEmpty_iff.1 hempty)]
    refine .met hempty ?_
    cases hparse : UrlReader.parse value with
    | error message =>
      have hnone : ¬ Check.IsWebUrl value := by
        rintro ⟨url, hurl, -⟩
        cases hparse.symm.trans hurl
      have hcomplaint : Check.urlComplaint value = s!"Invalid URL format: {message}" := by
        rw [Check.urlComplaint, hparse]
      dsimp only
      rw [← hcomplaint]
      exact .broken hnone
    | ok url =>
      have hweb : Check.IsWebUrl value ↔ url.scheme = "http" ∨ url.scheme = "https" := by
        constructor
        · rintro ⟨url', hurl, hscheme⟩
          obtain rfl := Except.ok.inj (hparse.symm.trans hurl)
          exact hscheme
        · exact fun hscheme => ⟨url, hparse, hscheme⟩
      have hcomplaint : Check.urlComplaint value = s!"Unsupported URL scheme: {url.scheme}" := by
        rw [Check.urlComplaint, hparse]
      dsimp only
      rw [← hcomplaint]
      by_cases hscheme : url.scheme = "http" ∨ url.scheme = "https"
      · rw [if_pos (by simpa using hscheme)]
        exact .met (hweb.2 hscheme) .done
      · rw [if_neg (by simpa using hscheme)]
        exact .broken (mt hweb.1 hscheme)

end Requirement

end

namespace Requirement

/-- A value is fit for a path. -/
def path (field value : String) : List Requirement := [
  ⟨value ≠ "", .invalidValue field value "Path cannot be empty"⟩,
  ⟨'\x00' ∉ value.toList, .invalidValue field value "Path contains null bytes"⟩]

theorem decides_path (field value : String) :
    Decides (path field value) (Check.path field value) := by
  rw [Check.path, path, String.contains_char_eq]
  by_cases hempty : value = ""
  · rw [if_pos (String.isEmpty_iff.2 hempty)]
    exact .broken (not_not_intro hempty)
  · rw [if_neg (mt String.isEmpty_iff.1 hempty)]
    refine .met hempty (.single ?_)
    rw [decide_eq_true_iff]

/-- A check of bounds, when what it asks for is said in another way. -/
theorem decides_range {α : Type} (scale : Check.Scale α) {field : String} {value min max : α}
    {text reason : String} {p : Prop}
    (hp : scale.atMost min value ∧ scale.atMost value max ↔ p) (htext : scale.text value = text)
    (hreason : s!"Value must be between {scale.text min} and {scale.text max}" = reason) :
    Decides [⟨p, .invalidValue field text reason⟩] (Check.range scale field value min max) := by
  rw [Check.range, htext, hreason]
  split
  next hin => exact .met (hp.1 (Bool.and_eq_true_iff.1 hin)) .done
  next hout => exact .broken fun h => hout (Bool.and_eq_true_iff.2 (hp.2 h))

end Requirement

/-! ### Countries and leagues -/

open Requirement (Decides)

/-- What is asked of a league, whose settings stand under a field. -/
def LeagueSetting.requirements (field : String) (l : LeagueSetting) : List Requirement :=
  [.nonBlank s!"{field}.name" l.name, .nonBlank s!"{field}.id" l.id]

theorem LeagueSetting.decides_validate (field : String) (l : LeagueSetting) :
    Decides (l.requirements field) (l.validate field) :=
  (Requirement.decides_nonBlank _ _).append (Requirement.decides_nonBlank _ _)

/-- What is asked of the leagues of a country, of which `j` come before. -/
def leagueRequirements (field : String) (j : Nat) (ls : List LeagueSetting) : List Requirement :=
  (ls.zipIdx j).flatMap fun (l, j) => l.requirements s!"{field}.leagues[{j}]"

theorem decides_validateLeagues (field : String) (j : Nat) (ls : List LeagueSetting) :
    Decides (leagueRequirements field j ls) (validateLeagues field j ls) := by
  induction ls generalizing j with
  | nil => exact .done
  | cons l ls ih =>
    rw [leagueRequirements, List.zipIdx_cons, List.flatMap_cons]
    exact (l.decides_validate _).append (ih (j + 1))

/-- What is asked of a country.  `earlier` are the names of the countries before it. -/
def CountrySetting.requirements (field : String) (earlier : List String) (c : CountrySetting) :
    List Requirement := [
  .nonBlank s!"{field}.name" c.name,
  .nonBlank s!"{field}.code" c.code,
  ⟨c.name ∉ earlier,
    .configValidation s!"{field}.name" s!"Country '{c.name}' is configured twice"⟩] ++
  leagueRequirements field 0 c.leagues

theorem CountrySetting.decides_validate (field : String) (earlier : List String)
    (c : CountrySetting) : Decides (c.requirements field earlier) (c.validate field earlier) := by
  have htwice : c.name ∉ earlier ↔ ¬ earlier.contains c.name := by rw [List.contains_iff_mem]
  exact (Requirement.decides_nonBlank _ _).append <| (Requirement.decides_nonBlank _ _).append <|
    .guarded htwice (decides_validateLeagues field 0 c.leagues)

/-- What is asked of countries, one after another. -/
def countryRequirements (cs : List CountrySetting) : List Requirement :=
  cs.zipIdx.flatMap fun (c, i) =>
    c.requirements s!"fetch.countries[{i}]" ((cs.take i).map (·.name))

/-- The countries that are not looked at yet are checked against the names of those before them. -/
theorem decides_validateCountries_append (before cs : List CountrySetting) :
    Decides
      ((cs.zipIdx before.length).flatMap fun (c, i) =>
        c.requirements s!"fetch.countries[{i}]" (((before ++ cs).take i).map (·.name)))
      (validateCountries (before.map (·.name)) cs) := by
  induction cs generalizing before with
  | nil => exact .done
  | cons c cs ih =>
    have hnext := ih (before ++ [c])
    rw [List.length_append, List.length_singleton, List.append_assoc, List.singleton_append,
      List.map_append] at hnext
    rw [List.zipIdx_cons, List.flatMap_cons, validateCountries, List.length_map]
    dsimp only
    rw [List.take_left]
    exact (c.decides_validate _ _).append hnext

theorem decides_validateCountries (cs : List CountrySetting) :
    Decides (countryRequirements cs) (validateCountries [] cs) :=
  decides_validateCountries_append [] cs

/-! ### Settings for fetching and for the output -/

/-- What is asked of the settings for fetching. -/
def FetchSettings.requirements (fetch : FetchSettings) : List Requirement := [
  ⟨1900 ≤ fetch.season.toInt ∧ fetch.season.toInt ≤ 9998,
    .invalidValue "fetch.season" fetch.season.toInt.repr "Value must be between 1900 and 9998"⟩,
  ⟨∃ q, Decimal.amount? fetch.minSuccessRate = some q ∧ 0 ≤ q ∧ q ≤ 1,
    .invalidValue "fetch.min_success_rate" (Decimal.plain fetch.minSuccessRate)
      "Value must be between 0 and 1"⟩,
  ⟨fetch.countries ≠ [], .missingConfig "fetch.countries"⟩] ++
  countryRequirements fetch.countries

theorem FetchSettings.decides_validate (fetch : FetchSettings) :
    Decides fetch.requirements fetch.validate := by
  have hseason : Decides
      [⟨1900 ≤ fetch.season.toInt ∧ fetch.season.toInt ≤ 9998, .invalidValue "fetch.season"
        fetch.season.toInt.repr "Value must be between 1900 and 9998"⟩]
      (Check.range .int32 "fetch.season" fetch.season 1900 9998) := by
    refine Requirement.decides_range .int32 ?_ rfl ?_
    · simp [Check.Scale.int32, Int32.le_iff_toInt_le]
    · decide +kernel
  have hrate : Decides
      [⟨∃ q, Decimal.amount? fetch.minSuccessRate = some q ∧ 0 ≤ q ∧ q ≤ 1,
        .invalidValue "fetch.min_success_rate" (Decimal.plain fetch.minSuccessRate)
          "Value must be between 0 and 1"⟩]
      (Check.range .float "fetch.min_success_rate" fetch.minSuccessRate 0 1) := by
    refine Requirement.decides_range .float ?_ rfl ?_
    · rw [← Decimal.share_iff_amount]
      simp [Check.Scale.float]
    · decide +kernel
  have hempty : fetch.countries ≠ [] ↔ ¬ fetch.countries.isEmpty := by rw [List.isEmpty_iff]
  exact hseason.append <| hrate.append <|
    .guarded hempty (decides_validateCountries fetch.countries)

/-- What is asked of the settings for the output. -/
def OutputSettings.requirements (output : OutputSettings) : List Requirement :=
  Requirement.path "output.path" output.path ++
    Requirement.path "output.site_dir" output.siteDir ++
    output.modelFile.toList.flatMap (Requirement.path "output.model_file")

theorem OutputSettings.decides_validate (output : OutputSettings) :
    Decides output.requirements output.validate := by
  rw [requirements, List.append_assoc, validate]
  refine (Requirement.decides_path _ _).append ((Requirement.decides_path _ _).append ?_)
  cases output.modelFile with
  | none => exact .done
  | some file =>
    rw [Option.toList_some, List.flatMap_singleton]
    exact Requirement.decides_path _ _

/-! ### All settings -/

section

variable [UrlReader]

/-- What is asked of the settings for the provider. -/
def ApiSettings.requirements (api : ApiSettings) : List Requirement :=
  Requirement.webUrl "api.base_url" api.baseUrl ++ [
  .nonBlank "api.api_key" api.apiKey,
  ⟨¬ Placeholder.IsWritten api.apiKey.toList,
    .missingConfig s!"api.api_key ({api.apiKey} is not set)"⟩] ++
  api.timeoutSeconds.toList.map fun seconds =>
    ⟨1 ≤ seconds.toNat ∧ seconds.toNat ≤ 600, .invalidValue "api.timeout_seconds"
      seconds.toNat.repr "Value must be between 1 and 600"⟩

/-- What is asked of settings, in the order of the check. -/
def Config.requirements (c : Config) : List Requirement :=
  [.nonBlank "site.name" c.site.name] ++ c.api.requirements ++ c.fetch.requirements ++
    c.output.requirements

theorem ApiSettings.decides_validate (api : ApiSettings) :
    Decides api.requirements api.validate := by
  have hkey : Decides [.nonBlank "api.api_key" api.apiKey,
      ⟨¬ Placeholder.IsWritten api.apiKey.toList,
        .missingConfig s!"api.api_key ({api.apiKey} is not set)"⟩] (validateKey api.apiKey) := by
    refine (Requirement.decides_nonBlank _ _).append (.single ?_)
    rw [Placeholder.occursIn_iff_isWritten]
  rw [requirements, List.append_assoc, validate]
  refine (Requirement.decides_webUrl _ _).append (hkey.append ?_)
  cases api.timeoutSeconds with
  | none => exact .done
  | some seconds =>
    refine Requirement.decides_range .uint64 ?_ rfl ?_
    · simp [Check.Scale.uint64, UInt64.le_iff_toNat_le]
    · decide +kernel

/-- **The outcome of the check** is that of what is asked of the settings, one thing after
another. -/
theorem Config.decides_validate (c : Config) : Decides c.requirements c.validate := by
  rw [requirements, List.append_assoc, List.append_assoc, validate]
  exact (Requirement.decides_nonBlank _ _).append <| c.api.decides_validate.append <|
    c.fetch.decides_validate.append c.output.decides_validate

/-! ### Valid settings -/

/-- Settings that can be used, without an order in which to look at them. -/
structure Config.Valid (c : Config) : Prop where
  siteName : Text.HasInk c.site.name
  baseUrl : Check.IsWebUrl c.api.baseUrl
  apiKey : Text.HasInk c.api.apiKey
  apiKey_set : ¬ Placeholder.IsWritten c.api.apiKey.toList
  timeout : ∀ seconds ∈ c.api.timeoutSeconds, 1 ≤ seconds.toNat ∧ seconds.toNat ≤ 600
  season : 1900 ≤ c.fetch.season.toInt ∧ c.fetch.season.toInt ≤ 9998
  minSuccessRate : ∃ q, Decimal.amount? c.fetch.minSuccessRate = some q ∧ 0 ≤ q ∧ q ≤ 1
  countries_ne_nil : c.fetch.countries ≠ []
  countries_named : ∀ country ∈ c.fetch.countries, country.IsNamed
  countries_nodup : (c.fetch.countries.map (·.name)).Nodup
  outputPath : Check.IsPath c.output.path
  siteDir : Check.IsPath c.output.siteDir
  modelFile : ∀ file ∈ c.output.modelFile, Check.IsPath file

/-- The empty text is no URL. -/
theorem Check.IsWebUrl.ne_empty {value : String} (h : Check.IsWebUrl value) : value ≠ "" := by
  rintro rfl
  obtain ⟨url, hurl, -⟩ := h
  exact UrlReader.parse_empty_ne_ok url hurl

theorem ApiSettings.forall_requirements_iff {api : ApiSettings} :
    (∀ r ∈ api.requirements, r.Holds) ↔
      Check.IsWebUrl api.baseUrl ∧ Text.HasInk api.apiKey ∧
        ¬ Placeholder.IsWritten api.apiKey.toList ∧
        ∀ seconds ∈ api.timeoutSeconds, 1 ≤ seconds.toNat ∧ seconds.toNat ≤ 600 := by
  simp only [requirements, Requirement.webUrl, Requirement.nonBlank, List.forall_mem_append,
    List.forall_mem_cons, List.forall_mem_map, Option.mem_toList, List.not_mem_nil,
    false_imp_iff, implies_true, and_true]
  constructor
  · rintro ⟨⟨⟨-, hurl⟩, hkey, hset⟩, htimeout⟩
    exact ⟨hurl, hkey, hset, htimeout⟩
  · rintro ⟨hurl, hkey, hset, htimeout⟩
    exact ⟨⟨⟨hurl.ne_empty, hurl⟩, hkey, hset⟩, htimeout⟩

/-- **The check passes exactly the valid settings.** -/
theorem Config.validate_eq_ok_iff_valid (c : Config) : c.validate = .ok () ↔ c.Valid := by
  rw [validate_eq_ok_iff, c.api.decides_validate.eq_ok_iff, ApiSettings.forall_requirements_iff]
  constructor
  · rintro ⟨hname, ⟨hurl, hkey, hset, htimeout⟩, hfetch, houtput⟩
    exact ⟨hname, hurl, hkey, hset, htimeout, hfetch.season,
      Decimal.share_iff_amount.1 hfetch.minSuccessRate, hfetch.countries_ne_nil,
      hfetch.countries_named, hfetch.countries_nodup, houtput.path, houtput.siteDir,
      houtput.modelFile⟩
  · intro h
    exact ⟨h.siteName, ⟨h.baseUrl, h.apiKey, h.apiKey_set, h.timeout⟩,
      ⟨h.season, Decimal.share_iff_amount.2 h.minSuccessRate, h.countries_ne_nil,
        h.countries_named, h.countries_nodup⟩,
      ⟨h.outputPath, h.siteDir, h.modelFile⟩⟩

/-- **The check decides whether settings are valid and reports what is first wrong with them**, in
the order of `Config.requirements`. -/
theorem Config.validate_reports (c : Config) :
    (c.validate = .ok () ↔ c.Valid) ∧
      ∀ e, c.validate = .error e ↔ ∃ before r after, c.requirements = before ++ r :: after ∧
        (∀ q ∈ before, q.Holds) ∧ ¬ r.Holds ∧ r.error = e :=
  ⟨c.validate_eq_ok_iff_valid, fun _ => c.decides_validate.eq_error_iff⟩

end

/-- Settings with a URL that is not one of the web, a blank key and no countries. -/
def Config.faulty : Config where
  site := ⟨"Results"⟩
  api := { baseUrl := "ftp://example.org", apiKey := " " }
  fetch := { season := 2025, countries := [] }
  output := { path := "out" }

/-- Of several things that are wrong the first one is reported. -/
theorem Config.faulty_validate_reports :
    faulty.validate = .error (.invalidValue "api.base_url" "ftp://example.org"
      "Unsupported URL scheme: ftp") := by
  have hurl : UrlReader.parse "ftp://example.org" =
      .ok ⟨"ftp", .name "example.org", none, "/", none, none⟩ := by decide +kernel
  refine (faulty.validate_reports.2 _).2 ⟨[.nonBlank "site.name" "Results",
    ⟨"ftp://example.org" ≠ "", .invalidValue "api.base_url" "ftp://example.org"
      "URL cannot be empty"⟩], _, _, rfl, ?_, ?_, ?_⟩
  · rw [List.forall_mem_cons, List.forall_mem_singleton]
    exact ⟨⟨'R', by decide, by decide⟩, by decide⟩
  · rintro ⟨url, hurl', hweb⟩
    obtain rfl := Except.ok.inj (hurl.symm.trans hurl')
    exact absurd hweb (by decide)
  · have hcomplaint : Check.urlComplaint "ftp://example.org" = "Unsupported URL scheme: ftp" := by
      rw [Check.urlComplaint, hurl]
      rfl
    exact congrArg (SiteError.invalidValue "api.base_url" "ftp://example.org") hcomplaint

end Matchday
