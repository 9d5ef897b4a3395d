import Matchday.Config.Read
import Matchday.Proofs.Toml.Conserve

/-!
# Where the key for the provider stands

When the key stands in a file once, another text in its place changes the key and nothing else.

## Main results

* `Toml.Fields.get?_replace`, `Toml.Fields.get?_replace_of_ne`: the field in which a text stands,
  and all others.
* `Config.ofEntries?_replace`: settings with another text in the place of the key.
* `Config.ofEntries?_entries?_replace`: the same from tokens.
-/

namespace Matchday

open Toml Toml.HasTexts

namespace Toml

instance : HasTexts Fields where
  count s
    | .named entries => count s entries
    | .listed items => count s items
  replace old new
    | .named entries => .named (replace old new entries)
    | .listed items => .listed (replace old new items)

namespace Fields

variable {α : Type} {fs : Fields} {i j : Nat} {name name' s old new : String} {x y : Value}
  {decode : Value → Option α}

theorem get?_replace (fs : Fields) :
    (replace old new fs).get? i name = (fs.get? i name).map (replace old new) := by
  cases fs with
  | named entries => exact lookup_replace name entries
  | listed items => exact List.getElem?_map

theorem count_lookup_le {entries : List (String × Value)} (h : entries.lookup name = some x) :
    count s x ≤ count s entries := by
  obtain ⟨before, after, rfl, -⟩ := List.lookup_eq_some_iff.1 h
  simp only [count_append, count_cons, count_pair]
  omega

theorem count_getElem?_le {items : List Value} (h : items[i]? = some x) :
    count s x ≤ count s items := by
  obtain ⟨before, after, rfl⟩ := List.append_of_mem (List.mem_of_getElem? h)
  simp only [count_append, count_cons]
  omega

theorem count_get?_le (h : fs.get? i name = some x) : count s x ≤ count s fs := by
  cases fs with
  | named entries => exact count_lookup_le h
  | listed items => exact count_getElem?_le h

/-- Two fields share no texts. -/
theorem count_add_count_le (hij : i ≠ j) (hname : name ≠ name') (hx : fs.get? i name = some x)
    (hy : fs.get? j name' = some y) : count s x + count s y ≤ count s fs := by
  cases fs with
  | named entries =>
    change entries.lookup name = some x at hx
    change entries.lookup name' = some y at hy
    change count s x + count s y ≤ count s entries
    induction entries with
    | nil => cases hx
    | cons e entries ih =>
      obtain ⟨k, u⟩ := e
      rw [List.lookup_cons] at hx hy
      rw [count_cons, count_pair, count_key]
      split at hx
      next hk =>
        obtain rfl := Option.some.inj hx
        rw [beq_iff_eq] at hk
        rw [beq_false_of_ne (hk ▸ hname.symm)] at hy
        have := count_lookup_le (s := s) hy
        omega
      next =>
        split at hy
        next =>
          obtain rfl := Option.some.inj hy
          have := count_lookup_le (s := s) hx
          omega
        next =>
          have := ih hx hy
          omega
  | listed items =>
    change items[i]? = some x at hx
    change items[j]? = some y at hy
    change count s x + count s y ≤ count s items
    induction items generalizing i j with
    | nil => simp at hx
    | cons u items ih =>
      rw [count_cons]
      cases i with
      | zero =>
        obtain rfl := Option.some.inj hx
        obtain ⟨j, rfl⟩ := Nat.exists_eq_succ_of_ne_zero hij.symm
        have := count_getElem?_le (s := s) (i := j) hy
        omega
      | succ i =>
        cases j with
        | zero =>
          obtain rfl := Option.some.inj hy
          have := count_getElem?_le (s := s) (i := i) hx
          omega
        | succ j =>
          have := ih (fun h => hij (congrArg _ h)) hx hy
          omega

/-- A text that stands in one field does not stand in the others. -/
structure StandsAt (old : String) (fs : Fields) (i : Nat) (name : String) : Prop where
  count_le : count old fs ≤ 1
  exists_get? : ∃ x, fs.get? i name = some x ∧ 1 ≤ count old x

variable (h : StandsAt old fs i name) (hij : i ≠ j) (hname : name ≠ name')
include h hij hname

theorem get?_replace_of_ne : (replace old new fs).get? j name' = fs.get? j name' := by
  obtain ⟨x, hx, hcount⟩ := h.exists_get?
  rw [get?_replace]
  cases hy : fs.get? j name' with
  | none => rfl
  | some y =>
    have hsum := count_add_count_le (s := old) hij hname hx hy
    have hle := h.count_le
    rw [Option.map_some, y.replaceText_eq_self (by omega)]

theorem required_replace_of_ne :
    (replace old new fs).required j name' decode = fs.required j name' decode := by
  rw [required, required, get?_replace_of_ne h hij hname]

theorem withDefault_replace_of_ne (default : α) :
    (replace old new fs).withDefault j name' default decode =
      fs.withDefault j name' default decode := by
  rw [withDefault, withDefault, get?_replace_of_ne h hij hname]

theorem optional_replace_of_ne :
    (replace old new fs).optional j name' decode = fs.optional j name' decode := by
  unfold optional
  rw [get?_replace_of_ne h hij hname]
  cases fs.get? j name' <;> cases fs <;> rfl

end Fields

end Toml

section Key

variable {new : String}

theorem Toml.text?_eq_some_iff {v : Value} {s : String} : text? v = some s ↔ v = .text s := by
  cases v <;> simp [text?]

/-- The fields of a point in time are no fields of its own. -/
theorem Toml.count_fields? {v : Value} {fs : Fields} (s : String) (h : fields? v = some fs)
    (hmoment : ∀ s, v ≠ .moment s) : count s fs = count s v := by
  cases v with
  | table entries =>
    obtain rfl := Option.some.inj h
    rw [count_table]
    rfl
  | array items =>
    obtain rfl := Option.some.inj h
    rw [count_array]
    rfl
  | moment s => exact absurd rfl (hmoment s)
  | _ => cases h

theorem Toml.fields?_replace {v : Value} {fs : Fields} {old : String} (h : fields? v = some fs)
    (hmoment : ∀ s, v ≠ .moment s) :
    fields? (replace old new v) = some (replace old new fs) := by
  cases v with
  | table entries =>
    obtain rfl := Option.some.inj h
    rw [replace_table]
    rfl
  | array items =>
    obtain rfl := Option.some.inj h
    rw [replace_array]
    rfl
  | moment s => exact absurd rfl (hmoment s)
  | _ => cases h

theorem ApiSettings.ofValue?_eq_some_iff {v : Value} {api : ApiSettings} :
    ofValue? v = some api ↔ ∃ fs, fields? v = some fs ∧
      fs.required 0 "base_url" text? = some api.baseUrl ∧
      fs.required 1 "api_key" text? = some api.apiKey ∧
      fs.optional 2 "timeout_seconds" uint64? = some api.timeoutSeconds ∧
      ∃ cities, fs.withDefault 3 "team_cities" [] texts? = some cities ∧
        .ofList cities = api.teamCities := by
  obtain ⟨baseUrl, apiKey, timeoutSeconds, teamCities⟩ := api
  simp [ofValue?, Option.bind_eq_some_iff]

theorem Config.ofEntries?_eq_some_iff {es : List (String × Value)} {c : Config} :
    ofEntries? es = some c ↔
      (Fields.named es).required 0 "site" SiteSettings.ofValue? = some c.site ∧
      (Fields.named es).required 1 "api" ApiSettings.ofValue? = some c.api ∧
      (Fields.named es).required 2 "fetch" FetchSettings.ofValue? = some c.fetch ∧
      (Fields.named es).required 3 "output" OutputSettings.ofValue? = some c.output ∧
      (Fields.named es).optional 4 "monitoring" MonitoringSettings.ofValue? =
        some c.monitoring := by
  obtain ⟨site, api, fetch, output, monitoring⟩ := c
  simp [ofEntries?, Option.bind_eq_some_iff]

/-- The key stands in the fields for the provider. -/
theorem ApiSettings.exists_get?_apiKey {v : Value} {api : ApiSettings}
    (h : ofValue? v = some api) :
    ∃ fs, fields? v = some fs ∧ (∀ s, v ≠ .moment s) ∧
      fs.get? 1 "api_key" = some (.text api.apiKey) := by
  obtain ⟨fs, hfields, -, hkey, -⟩ := ofValue?_eq_some_iff.1 h
  obtain ⟨x, hx, htext⟩ := Option.bind_eq_some_iff.1 hkey
  obtain rfl := text?_eq_some_iff.1 htext
  refine ⟨fs, hfields, ?_, hx⟩
  rintro s rfl
  obtain rfl := Option.some.inj hfields
  cases hx

theorem ApiSettings.count_apiKey_pos {v : Value} {api : ApiSettings} (h : ofValue? v = some api) :
    0 < count api.apiKey v := by
  obtain ⟨fs, hfields, hmoment, hx⟩ := exists_get?_apiKey h
  have hcount := count_fields? api.apiKey hfields hmoment
  have hone : count api.apiKey (Value.text api.apiKey) = 1 := by simp
  have hle := Fields.count_get?_le (s := api.apiKey) hx
  omega

/-- Another text can be put in the place of the key. -/
theorem ApiSettings.ofValue?_replace {v : Value} {api : ApiSettings} (h : ofValue? v = some api)
    (hle : count api.apiKey v ≤ 1) :
    ofValue? (replace api.apiKey new v) = some { api with apiKey := new } := by
  obtain ⟨fs, hfields, hmoment, hx⟩ := exists_get?_apiKey h
  have hcount := count_fields? api.apiKey hfields hmoment
  have hx' : (replace api.apiKey new fs).get? 1 "api_key" = some (.text new) := by
    rw [Fields.get?_replace, hx, Option.map_some, replace_text, if_pos rfl]
  have hat : Fields.StandsAt api.apiKey fs 1 "api_key" := ⟨by omega, _, hx, by simp⟩
  obtain ⟨_, hfs, hurl, -, htimeout, cities, hcities, htable⟩ := ofValue?_eq_some_iff.1 h
  obtain rfl := Option.some.inj (hfields.symm.trans hfs)
  refine ofValue?_eq_some_iff.2
    ⟨_, fields?_replace hfields hmoment, ?_, ?_, ?_, cities, ?_, htable⟩
  · rw [Fields.required_replace_of_ne hat (by decide) (by decide), hurl]
  · rw [Fields.required, hx']
    rfl
  · rw [Fields.optional_replace_of_ne hat (by decide) (by decide), htimeout]
  · rw [Fields.withDefault_replace_of_ne hat (by decide) (by decide), hcities]

theorem Config.count_apiKey_pos {es : List (String × Value)} {c : Config}
    (h : ofEntries? es = some c) : 0 < count c.api.apiKey es := by
  obtain ⟨-, hapi, -⟩ := ofEntries?_eq_some_iff.1 h
  obtain ⟨v, hv, hsettings⟩ := Option.bind_eq_some_iff.1 hapi
  exact Nat.lt_of_lt_of_le (ApiSettings.count_apiKey_pos hsettings) (Fields.count_lookup_le hv)

/-- **Settings with another text in the place of the key**, when the key stands there once. -/
theorem Config.ofEntries?_replace {es : List (String × Value)} {c : Config}
    (h : ofEntries? es = some c) (hle : count c.api.apiKey es ≤ 1) :
    ofEntries? (replace c.api.apiKey new es) = some { c with api.apiKey := new } := by
  obtain ⟨hsite, hapi, hfetch, houtput, hmonitoring⟩ := ofEntries?_eq_some_iff.1 h
  obtain ⟨v, hv, hsettings⟩ := Option.bind_eq_some_iff.1 hapi
  have hcount : count c.api.apiKey v ≤ count c.api.apiKey es := Fields.count_lookup_le hv
  have hreplace : ApiSettings.ofValue? (replace c.api.apiKey new v) =
      some { c.api with apiKey := new } :=
    ApiSettings.ofValue?_replace hsettings (Nat.le_trans hcount hle)
  have hv' : (replace c.api.apiKey new (Fields.named es)).get? 1 "api" =
      some (replace c.api.apiKey new v) := by
    rw [Fields.get?_replace, hv, Option.map_some]
  have hat : Fields.StandsAt c.api.apiKey (.named es) 1 "api" :=
    ⟨hle, v, hv, ApiSettings.count_apiKey_pos hsettings⟩
  have hnamed : Fields.named (replace c.api.apiKey new es) =
      replace c.api.apiKey new (Fields.named es) := rfl
  rw [ofEntries?_eq_some_iff, hnamed]
  refine ⟨?_, ?_, ?_, ?_, ?_⟩
  · rw [Fields.required_replace_of_ne hat (by decide) (by decide), hsite]
  · rw [Fields.required, hv']
    exact hreplace
  · rw [Fields.required_replace_of_ne hat (by decide) (by decide), hfetch]
  · rw [Fields.required_replace_of_ne hat (by decide) (by decide), houtput]
  · rw [Fields.optional_replace_of_ne hat (by decide) (by decide), hmonitoring]

/-- **Another text in the place of a token that is the key** changes the key and nothing else. -/
theorem Config.ofEntries?_entries?_replace {before after : List Token} {isMultiline : Bool}
    {c : Config} (h : (entries? (before ++ .text c.api.apiKey isMultiline :: after)).bind
      ofEntries? = some c)
    (hbefore : count c.api.apiKey before = 0) (hafter : count c.api.apiKey after = 0) :
    (entries? (before ++ .text new isMultiline :: after)).bind ofEntries? =
      some { c with api.apiKey := new } := by
  obtain ⟨es, hes, hc⟩ := Option.bind_eq_some_iff.1 h
  obtain ⟨hle, hreplace⟩ := entries?_replace c.api.apiKey new hes
  have hone : count c.api.apiKey (before ++ Token.text c.api.apiKey isMultiline :: after) = 1 := by
    rw [count_append, count_cons, hbefore, hafter, count_textToken, if_pos rfl]
  have htokens : replace c.api.apiKey new (before ++ .text c.api.apiKey isMultiline :: after) =
      before ++ .text new isMultiline :: after := by
    rw [replace_append, replace_cons, tokens_replace_eq_self hbefore,
      tokens_replace_eq_self hafter, replace_textToken, if_pos rfl]
  have hpos := Config.count_apiKey_pos hc
  rw [htokens] at hreplace
  rw [hreplace (by omega), Option.bind_some]
  exact Config.ofEntries?_replace hc (by omega)

end Key

end Matchday
