import Matchday.Config.Read
import Matchday.Proofs.Config.KeyPlace
import Matchday.Proofs.Config.Placeholder
import Matchday.Proofs.Toml.Spelling

/-!
# Files with a placeholder for the key

A file in which the key for the provider is a placeholder in double quotes, the only one in the
file.  The value of the variable is put into the text of the file before the file is read.  It
becomes the key, and changes nothing else, as long as each of its characters stands for itself in
double quotes.  Any other value is not read as it is.

## Main definitions

* `Text.IsWord`: plain words.
* `KeyTemplate`: such files.
* `KeyTemplate.keyLast`: one that ends with the key.

## Main results

* `KeyTemplate.exists_ofToml?_text`: all values that are read as they are give the same other
  settings.
* `KeyTemplate.ofText_iff`: the values of the variable that become the key in each file.
* `KeyTemplate.not_forall_ofText`: not all values do.
-/

namespace Matchday

open Toml Toml.HasTexts
open Placeholder (Part flatMap_value_map_char)

/-- A plain word. -/
structure Text.IsWord (s : String) : Prop where
  ne_empty : s ≠ ""
  isAlphanum : ∀ c ∈ s.toList, c.isAlphanum

/-- A text in double quotes between two other texts. -/
def Text.quotedBetween (before s after : List Char) : List Char :=
  before ++ '"' :: (s ++ '"' :: after)

/-- A file in which the key for the provider is a placeholder in double quotes, the only one. -/
structure KeyTemplate where
  before : List Char
  name : List Char
  after : List Char
  /-- The placeholder is the only one in the file. -/
  parts : Placeholder.parts
      (String.ofList (Text.quotedBetween before (Part.placeholder name).source after)) =
    (before ++ ['"']).map .char ++ .placeholder name :: ('"' :: after).map .char
  /-- A token starts at the quotes before it. -/
  opens : ∃ ts, ∀ rest, tokens? (String.ofList (before ++ '"' :: rest)) =
    (tokensWithin (rest.length + 1) ('"' :: rest)).map (ts ++ ·)
  /-- The quotes behind it are single ones. -/
  alone : after.head? ≠ some '"'
  /-- With a plain word in its place the file can be read, and the word is the key. -/
  reads : ∀ word, Text.IsWord word → ∃ c,
    Config.ofToml? (String.ofList (Text.quotedBetween before word.toList after)) = some c ∧
      c.api.apiKey = word

/-! ### Plain words -/

theorem Text.IsWord.standsForItself {s : String} (h : Text.IsWord s) :
    ∀ c ∈ s.toList, standsForItself c := by
  intro c hc
  have halphanum := h.isAlphanum c hc
  have hcode : 48 ≤ c.toNat ∧ c.toNat ≤ 57 ∨ 65 ≤ c.toNat ∧ c.toNat ≤ 90 ∨
      97 ≤ c.toNat ∧ c.toNat ≤ 122 := by
    simp only [Char.isAlphanum, Char.isAlpha, Char.isUpper, Char.isLower, Char.isDigit,
      Bool.or_eq_true, Bool.and_eq_true, decide_eq_true_eq, ge_iff_le, UInt32.le_iff_toNat_le]
      at halphanum
    change ((_ ≤ c.toNat ∧ c.toNat ≤ _) ∨ _ ≤ c.toNat ∧ c.toNat ≤ _) ∨
      _ ≤ c.toNat ∧ c.toNat ≤ _ at halphanum
    simp at halphanum
    omega
  have hquote : c ≠ '"' := by
    rintro rfl
    simp at hcode
  have hslash : c ≠ '\\' := by
    rintro rfl
    simp at hcode
  have hforbidden : isForbidden c = false := by
    simp only [isForbidden, Bool.or_eq_false_iff, Bool.and_eq_false_iff, decide_eq_false_iff_not,
      beq_eq_false_iff_ne]
    omega
  simp [Toml.standsForItself, hquote, hslash, hforbidden]

theorem Text.isWord_replicate (n : Nat) :
    Text.IsWord (String.ofList (List.replicate (n + 1) 'a')) where
  ne_empty := by
    rw [Ne, ← String.toList_inj, String.toList_ofList]
    exact List.cons_ne_nil _ _
  isAlphanum := by
    intro c hc
    rw [String.toList_ofList] at hc
    rw [List.eq_of_mem_replicate hc]
    decide

/-- There is always a word that stands nowhere. -/
theorem Toml.exists_isWord_count_eq_zero (ts : List Token) :
    ∃ word, Text.IsWord word ∧ count word ts = 0 := by
  have hlong : ∃ n, ∀ word : String, n ≤ word.length → count word ts = 0 := by
    induction ts with
    | nil => exact ⟨0, fun _ _ => rfl⟩
    | cons t ts ih =>
      obtain ⟨n, hn⟩ := ih
      cases t with
      | text s isMultiline =>
        refine ⟨max n (s.length + 1), fun word hword => ?_⟩
        have hne : s ≠ word := by
          rintro rfl
          omega
        rw [count_cons, hn word (by omega), count_textToken, if_neg hne]
      | _ => exact ⟨n, fun word hword => (Nat.zero_add _).trans (hn word hword)⟩
  obtain ⟨n, hn⟩ := hlong
  refine ⟨_, Text.isWord_replicate n, hn _ ?_⟩
  rw [String.length_ofList, List.length_replicate]
  omega

/-! ### Files with a text in place of the placeholder -/

namespace KeyTemplate

variable (t : KeyTemplate) {s : String}

/-- The file with a text in place of the placeholder. -/
def text (s : String) : String :=
  String.ofList (Text.quotedBetween t.before s.toList t.after)

/-- The file as it is written. -/
def source : String :=
  t.text (String.ofList (Part.placeholder t.name).source)

/-- The value of the variable is put in place of the placeholder. -/
theorem substitute_source {env : String → Option String}
    (h : env (String.ofList t.name) = some s) : Placeholder.substitute env t.source = t.text s := by
  have hvalue : Part.value env (.placeholder t.name) = s.toList := by
    rw [Part.value, h]
  rw [Placeholder.substitute, source, text, String.toList_ofList, t.parts, List.flatMap_append,
    List.flatMap_cons, flatMap_value_map_char, flatMap_value_map_char, hvalue, text,
    Text.quotedBetween, List.append_assoc, List.singleton_append]

theorem ofText_source_eq_ok_iff (env : String → Option String) {c : Config}
    (h : env (String.ofList t.name) = some s) :
    Config.ofText env t.source = .ok c ↔ Config.ofToml? (t.text s) = some c := by
  rw [Config.ofText, t.substitute_source h]
  cases Config.ofToml? (t.text s) <;> simp

/-- The tokens of the file differ in a single text. -/
theorem exists_tokens?_text :
    ∃ before after, ∀ s : String, (∀ c ∈ s.toList, standsForItself c) →
      tokens? (t.text s) = some (before ++ .text s false :: after) := by
  obtain ⟨before, hbefore⟩ := t.opens
  have htext (s : String) (hs : ∀ c ∈ s.toList, standsForItself c) : tokens? (t.text s) =
      (tokensWithin t.after.length t.after).map fun after => before ++ .text s false :: after := by
    have hfuel : (s.toList ++ '"' :: t.after).length =
        s.toList.length + 1 + t.after.length := by simp; omega
    rw [text, Text.quotedBetween, hbefore, tokensWithin_quoted hs t.alone, hfuel,
      tokensWithin_eq_of_length_le (Nat.le_add_left _ _), Option.map_map, String.ofList_toList]
    rfl
  have hword := Text.isWord_replicate 0
  obtain ⟨c, hread, -⟩ := t.reads _ hword
  obtain ⟨es, hes, -⟩ := Option.bind_eq_some_iff.1 hread
  rw [read?_eq_bind_entries?] at hes
  obtain ⟨ts, hts, -⟩ := Option.bind_eq_some_iff.1 hes
  have hts' := (htext _ hword.standsForItself).symm.trans hts
  obtain ⟨after, hafter, -⟩ := Option.map_eq_some_iff.1 hts'
  exact ⟨before, after, fun s hs => by rw [htext s hs, hafter]; rfl⟩

/-- **All texts that are read as they are** become the key, with the same other settings. -/
theorem exists_ofToml?_text :
    ∃ c : Config, ∀ s : String, (∀ c ∈ s.toList, standsForItself c) →
      Config.ofToml? (t.text s) = some { c with api.apiKey := s } := by
  obtain ⟨before, after, htokens⟩ := t.exists_tokens?_text
  have hread (s : String) (hs : ∀ c ∈ s.toList, standsForItself c) : Config.ofToml? (t.text s) =
      (entries? (before ++ .text s false :: after)).bind Config.ofEntries? := by
    rw [Config.ofToml?, read?_eq_bind_entries?, htokens s hs, Option.bind_some]
  obtain ⟨word, hword, hfresh⟩ := exists_isWord_count_eq_zero (before ++ after)
  rw [count_append, Nat.add_eq_zero_iff] at hfresh
  obtain ⟨c, hc, rfl⟩ := t.reads word hword
  have hc' := (hread _ hword.standsForItself).symm.trans hc
  refine ⟨c, fun s hs => ?_⟩
  rw [hread s hs]
  exact Config.ofEntries?_entries?_replace hc' hfresh.1 hfresh.2

/-! ### A file that ends with the key -/

/-- The line that opens a table. -/
def headerTokens (name : String) : List Token :=
  [.openBracket, .word name.toList, .closeBracket, .newline]

/-- A key with its value. -/
def settingTokens (key : String) (value : List Token) : List Token :=
  .word key.toList :: .equals :: value

/-- A file whose last setting is the key for the provider. -/
def keyLastTokens : List Token :=
  headerTokens "site" ++ settingTokens "name" [.text "Results" false, .newline] ++
  headerTokens "fetch" ++ settingTokens "season" [.word "2025".toList, .newline] ++
  settingTokens "countries" [.openBracket, .closeBracket, .newline] ++
  headerTokens "output" ++ settingTokens "path" [.text "out" false, .newline] ++
  headerTokens "api" ++ settingTokens "base_url" [.text "https://example.org" false, .newline] ++
  settingTokens "api_key" []

theorem areApart_keyLast : AreApart keyLastTokens := by
  decide +kernel

theorem opens_keyLast (rest : List Char) :
    tokens? (String.ofList (keyLastTokens.flatMap Token.spelling ++ '"' :: rest)) =
      (tokensWithin (rest.length + 1) ('"' :: rest)).map (keyLastTokens ++ ·) :=
  tokens?_spelling areApart_keyLast (fun h => nomatch h)

theorem ofToml?_keyLast (s : String) :
    Config.ofToml?
        (String.ofList (Text.quotedBetween (keyLastTokens.flatMap Token.spelling) s.toList [])) =
      (tokensWithin ((s.toList ++ ['"']).length + 1) ('"' :: (s.toList ++ ['"']))).bind fun ts =>
        (entries? (keyLastTokens ++ ts)).bind Config.ofEntries? := by
  rw [Config.ofToml?, read?_eq_bind_entries?, Text.quotedBetween, opens_keyLast, Option.bind_map,
    Option.bind_assoc]
  rfl

theorem reads_keyLast {word : String} (h : Text.IsWord word) :
    ∃ c, Config.ofToml? (String.ofList (Text.quotedBetween
      (keyLastTokens.flatMap Token.spelling) word.toList [])) = some c ∧ c.api.apiKey = word := by
  have hsample : ((entries? (keyLastTokens ++ [.text "key" false])).bind
      Config.ofEntries?).map (·.api.apiKey) = some "key" := by decide +kernel
  obtain ⟨c, hc, hkey⟩ := Option.map_eq_some_iff.1 hsample
  rw [← hkey] at hc
  have hfresh : count c.api.apiKey keyLastTokens = 0 := by
    rw [hkey]
    decide +kernel
  have htokens (fuel : Nat) : tokensWithin (fuel + 1) ('"' :: (word.toList ++ ['"'])) =
      some [.text word false] := by
    have hquoted : tokensWithin (fuel + 1) ('"' :: (word.toList ++ ['"'])) =
        (tokensWithin fuel []).map (.text (String.ofList word.toList) false :: ·) :=
      tokensWithin_quoted h.standsForItself nofun
    rw [hquoted, tokensWithin_eq_of_length_le (Nat.zero_le _), String.ofList_toList]
    rfl
  refine ⟨{ c with api.apiKey := word }, ?_, rfl⟩
  rw [ofToml?_keyLast, htokens, Option.bind_some]
  exact Config.ofEntries?_entries?_replace hc hfresh count_nil

/-- A file that ends with the key. -/
def keyLast : KeyTemplate where
  before := keyLastTokens.flatMap Token.spelling
  name := "KEY".toList
  after := []
  parts := by decide +kernel
  opens := ⟨keyLastTokens, opens_keyLast⟩
  alone := nofun
  reads _ h := reads_keyLast h

/-- In this file a text that is not read as it is does not become the key. -/
theorem standsForItself_of_ofToml?_keyLast {c : Config}
    (h : Config.ofToml? (keyLast.text s) = some c) (hkey : c.api.apiKey = s) :
    ∀ c ∈ s.toList, standsForItself c := by
  have hread := (ofToml?_keyLast s).symm.trans h
  obtain ⟨ts, hts, hread⟩ := Option.bind_eq_some_iff.1 hread
  obtain ⟨es, hes, hc⟩ := Option.bind_eq_some_iff.1 hread
  -- The key is among the tokens, either in front of the placeholder or behind its first quotes.
  have hpos : 0 < count s (keyLastTokens ++ ts) :=
    Nat.lt_of_lt_of_le (hkey ▸ Config.count_apiKey_pos hc)
      (entries?_replace s s hes).1
  obtain ⟨isMultiline, hmem⟩ := exists_text_mem_of_count_pos hpos
  rcases List.mem_append.1 hmem with hmem | hmem
  · exact AreApart.standsForItself areApart_keyLast hmem
  · rw [← String.ofList_toList (s := s)] at hmem
    exact standsForItself_of_text_mem hts hmem

/-! ### All files -/

/-- **The values that become the key** in each file with a placeholder for it, and change nothing
else, are those all of whose characters stand for themselves in double quotes. -/
theorem ofText_iff (value : String) :
    (∀ (t : KeyTemplate) (env : String → Option String) (word : String),
      env (String.ofList t.name) = some value → Text.IsWord word →
      ∃ c, Config.ofToml? (t.text word) = some c ∧
        Config.ofText env t.source = .ok { c with api.apiKey := value }) ↔
      ∀ c ∈ value.toList, standsForItself c := by
  constructor
  · intro h
    obtain ⟨c, -, hread⟩ := h keyLast (fun _ => some value) _ rfl (Text.isWord_replicate 0)
    have hread := (keyLast.ofText_source_eq_ok_iff (fun _ => some value) rfl).1 hread
    exact standsForItself_of_ofToml?_keyLast hread rfl
  · intro hvalue t env word henv hword
    obtain ⟨c, hc⟩ := t.exists_ofToml?_text
    have hread := (t.ofText_source_eq_ok_iff env henv).2 (hc value hvalue)
    exact ⟨_, hc word hword.standsForItself, hread⟩

theorem keyLast_ofText :
    ∃ c, Config.ofToml? (keyLast.text "key") = some c ∧
      Config.ofText (fun _ => some "$\x7bKEY\x7d = [#1]") keyLast.source =
        .ok { c with api.apiKey := "$\x7bKEY\x7d = [#1]" } :=
  have hvalue : ∀ c ∈ "$\x7bKEY\x7d = [#1]".toList, standsForItself c :=
    List.all_eq_true.1 (by decide)
  (ofText_iff _).2 hvalue keyLast (fun _ => some "$\x7bKEY\x7d = [#1]") "key" rfl
    ⟨by decide, List.all_eq_true.1 (by decide)⟩

/-- A value that ends the quotes around it and goes on with another setting. -/
def outbreak : String :=
  "key\"\ntimeout_seconds = 5 # "

/-- **Not all values become the key**: this one sets a time limit as well. -/
theorem not_forall_ofText :
    ¬ ∀ (value : String) (t : KeyTemplate) (env : String → Option String) (word : String),
      env (String.ofList t.name) = some value → Text.IsWord word →
      ∃ c, Config.ofToml? (t.text word) = some c ∧
        Config.ofText env t.source = .ok { c with api.apiKey := value } := by
  intro h
  have hsettings : (Config.ofToml? (keyLast.text outbreak)).map
      (fun c => (c.api.apiKey, c.api.timeoutSeconds)) = some ("key", some 5) := by decide +kernel
  obtain ⟨c, -, hread⟩ :=
    h outbreak keyLast (fun _ => some outbreak) _ rfl (Text.isWord_replicate 0)
  rw [(keyLast.ofText_source_eq_ok_iff (fun _ => some outbreak) rfl).1 hread] at hsettings
  have hkey : outbreak = "key" := congrArg Prod.fst (Option.some.inj hsettings)
  exact absurd hkey (by decide)

end KeyTemplate

end Matchday
