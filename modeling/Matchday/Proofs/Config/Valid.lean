import Matchday.Config.Check
import Matchday.Proofs.Rule.Meaning

/-!
# Settings that pass the check

The check of the settings stops at the first violation.  Settings that pass it to the end have what
each of its steps asks for.

## Main definitions

* `CountrySetting.IsNamed`: a country and its leagues have names and codes.
* `FetchSettings.Valid`, `OutputSettings.Valid`: what the check asks of the settings for fetching
  and for the output.

## Main results

* `FetchSettings.validate_eq_ok_iff`, `OutputSettings.validate_eq_ok_iff`: when these pass.
* `Config.validate_eq_ok_iff`: when all settings pass.
-/

namespace Matchday

/-- Two steps pass when both do. -/
theorem seq_eq_ok_iff {ε α : Type} {x : Except ε Unit} {y : Except ε α} {b : α} :
    (x >>= fun _ => y) = .ok b ↔ x = .ok () ∧ y = .ok b := by
  cases x with
  | ok a => exact (and_iff_right rfl).symm
  | error e =>
    have hstop : (.error e >>= fun _ : Unit => y) = .error e := rfl
    exact iff_of_false (by rw [hstop]; exact nofun) fun h => nomatch h.1

/-- A step that stops on a condition passes when the condition fails and the next step passes. -/
theorem unless_eq_ok_iff {ε α : Type} {p : Prop} [Decidable p] {e : ε} {y : Except ε α} {b : α} :
    (if p then throw e >>= fun _ : Unit => y else y) = .ok b ↔ ¬ p ∧ y = .ok b := by
  split
  next hp =>
    have hstop : (throw e >>= fun _ : Unit => y) = .error e := rfl
    exact iff_of_false (by rw [hstop]; exact nofun) fun h => h.1 hp
  next hp => exact (and_iff_right hp).symm

namespace Check

theorem nonBlank_eq_ok_iff {field value : String} :
    nonBlank field value = .ok () ↔ Text.HasInk value := by
  rw [nonBlank, ← Text.isAllBlank_eq_false_iff]
  split <;> simp [*]

theorem range_eq_ok_iff {α : Type} {scale : Scale α} {field : String} {value min max : α} :
    range scale field value min max = .ok () ↔
      scale.atMost min value ∧ scale.atMost value max := by
  rw [range, ← Bool.and_eq_true]
  split <;> simp [*]

/-- A text that is fit for a path. -/
def IsPath (value : String) : Prop :=
  value ≠ "" ∧ '\x00' ∉ value.toList

theorem path_eq_ok_iff {field value : String} : path field value = .ok () ↔ IsPath value := by
  rw [path, IsPath, String.contains_char_eq, Ne, ← String.isEmpty_iff]
  split
  next hempty => exact iff_of_false nofun fun h => h.1 hempty
  next hne => split <;> simp_all

end Check

/-! ### Countries and leagues -/

/-- A country and its leagues have names and codes. -/
structure CountrySetting.IsNamed (c : CountrySetting) : Prop where
  name : Text.HasInk c.name
  code : Text.HasInk c.code
  leagues : ∀ l ∈ c.leagues, Text.HasInk l.name ∧ Text.HasInk l.id

theorem validateLeagues_eq_ok_iff {field : String} {j : Nat} {ls : List LeagueSetting} :
    validateLeagues field j ls = .ok () ↔ ∀ l ∈ ls, Text.HasInk l.name ∧ Text.HasInk l.id := by
  induction ls generalizing j with
  | nil => simp [validateLeagues]
  | cons l ls ih =>
    rw [validateLeagues, seq_eq_ok_iff, ih, LeagueSetting.validate, seq_eq_ok_iff,
      Check.nonBlank_eq_ok_iff, Check.nonBlank_eq_ok_iff, List.forall_mem_cons]

theorem CountrySetting.validate_eq_ok_iff {field : String} {earlier : List String}
    {c : CountrySetting} :
    c.validate field earlier = .ok () ↔ c.IsNamed ∧ c.name ∉ earlier := by
  rw [validate, seq_eq_ok_iff, seq_eq_ok_iff, Check.nonBlank_eq_ok_iff, Check.nonBlank_eq_ok_iff]
  dsimp only
  rw [unless_eq_ok_iff, validateLeagues_eq_ok_iff, List.contains_iff_mem]
  constructor
  · rintro ⟨hname, hcode, hearlier, hleagues⟩
    exact ⟨⟨hname, hcode, hleagues⟩, hearlier⟩
  · rintro ⟨h, hearlier⟩
    exact ⟨h.name, h.code, hearlier, h.leagues⟩

/-- The names of countries must differ from each other and from those before. -/
theorem validateCountries_eq_ok_iff {earlier : List String} {cs : List CountrySetting} :
    validateCountries earlier cs = .ok () ↔
      (∀ c ∈ cs, c.IsNamed) ∧ (cs.map (·.name)).Nodup ∧ ∀ c ∈ cs, c.name ∉ earlier := by
  induction cs generalizing earlier with
  | nil => simp [validateCountries]
  | cons c cs ih =>
    rw [validateCountries, seq_eq_ok_iff, ih, CountrySetting.validate_eq_ok_iff]
    simp only [List.forall_mem_cons, List.map_cons, List.nodup_cons, List.mem_map,
      List.mem_append, List.mem_singleton]
    grind

/-! ### Fetching -/

/-- What the check asks of the settings for fetching. -/
structure FetchSettings.Valid (fetch : FetchSettings) : Prop where
  season : 1900 ≤ fetch.season.toInt ∧ fetch.season.toInt ≤ 9998
  minSuccessRate : 0 ≤ fetch.minSuccessRate ∧ fetch.minSuccessRate ≤ 1
  countries_ne_nil : fetch.countries ≠ []
  countries_named : ∀ c ∈ fetch.countries, c.IsNamed
  countries_nodup : (fetch.countries.map (·.name)).Nodup

theorem FetchSettings.validate_eq_ok_iff {fetch : FetchSettings} :
    fetch.validate = .ok () ↔ fetch.Valid := by
  rw [validate, seq_eq_ok_iff, seq_eq_ok_iff, Check.range_eq_ok_iff, Check.range_eq_ok_iff]
  dsimp only
  rw [unless_eq_ok_iff, validateCountries_eq_ok_iff, List.isEmpty_iff]
  simp only [Check.Scale.int32, Check.Scale.float, decide_eq_true_eq, Int32.le_iff_toInt_le]
  constructor
  · rintro ⟨hseason, hrate, hne, hnamed, hnodup, -⟩
    exact ⟨hseason, hrate, hne, hnamed, hnodup⟩
  · intro h
    exact ⟨h.season, h.minSuccessRate, h.countries_ne_nil, h.countries_named, h.countries_nodup,
      fun _ _ => List.not_mem_nil⟩

/-! ### All settings -/

/-- What the check asks of the settings for the output. -/
structure OutputSettings.Valid (output : OutputSettings) : Prop where
  path : Check.IsPath output.path
  siteDir : Check.IsPath output.siteDir
  modelFile : ∀ file ∈ output.modelFile, Check.IsPath file

theorem OutputSettings.validate_eq_ok_iff {output : OutputSettings} :
    output.validate = .ok () ↔ output.Valid := by
  obtain ⟨path, siteDir, modelFile⟩ := output
  rw [validate, seq_eq_ok_iff, seq_eq_ok_iff, Check.path_eq_ok_iff, Check.path_eq_ok_iff]
  cases modelFile with
  | none => exact ⟨fun ⟨hpath, hdir, _⟩ => ⟨hpath, hdir, nofun⟩, fun h => ⟨h.path, h.siteDir, rfl⟩⟩
  | some file =>
    dsimp only
    rw [Check.path_eq_ok_iff]
    constructor
    · rintro ⟨hpath, hdir, hfile⟩
      refine ⟨hpath, hdir, ?_⟩
      rintro _ ⟨⟩
      exact hfile
    · intro h
      exact ⟨h.path, h.siteDir, h.modelFile file rfl⟩

theorem Config.validate_eq_ok_iff [UrlReader] {c : Config} :
    c.validate = .ok () ↔
      Text.HasInk c.site.name ∧ c.api.validate = .ok () ∧ c.fetch.Valid ∧ c.output.Valid := by
  rw [validate, seq_eq_ok_iff, seq_eq_ok_iff, seq_eq_ok_iff, Check.nonBlank_eq_ok_iff,
    FetchSettings.validate_eq_ok_iff, OutputSettings.validate_eq_ok_iff]

end Matchday
