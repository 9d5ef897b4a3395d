import Matchday.Proofs.Toml.Lexing

/-!
# Tokens as they are written

Tokens that are written one after another are read as these tokens, when no word follows a word and
no text follows a text.

## Main definitions

* `Toml.Token.spelling`: how a token is written.
* `Toml.AreApart`: tokens that can be written one after another.

## Main results

* `Toml.tokensWithin_spelling`, `Toml.tokens?_spelling`: tokens that are written before a text in
  quotes are read again.
-/

namespace Matchday.Toml

/-- How a token is written. -/
def Token.spelling : Token → List Char
  | dot => ['.']
  | equals => ['=']
  | comma => [',']
  | openBracket => ['[']
  | closeBracket => [']']
  | openBrace => ['{']
  | closeBrace => ['}']
  | blank cs => cs
  | newline => ['\n']
  | word cs => cs
  | text s _ => '"' :: (s.toList ++ ['"'])

/-- Whether a token is a bare word. -/
def Token.isWord : Token → Bool
  | word _ => true
  | _ => false

/-- Whether a token is a quoted text. -/
def Token.isText : Token → Bool
  | text _ _ => true
  | _ => false

/-- Whether a token can be written before others, and before a text in quotes. -/
def Token.isApart (ts : List Token) : Token → Bool
  | word cs => !cs.isEmpty && cs.all (fun c => !endsWord c) && !ts.head?.any isWord
  | text s isMultiline =>
    !isMultiline && s.toList.all standsForItself && !ts.isEmpty && !ts.head?.any isText
  | blank _ => false
  | _ => true

/-- Tokens that can be written one after another, and before a text in quotes. -/
def AreApart : List Token → Bool
  | [] => true
  | t :: ts => t.isApart ts && AreApart ts

variable {ts : List Token} {rest : List Char} {fuel : Nat}

theorem Token.isApart_word_iff {cs : List Char} :
    (word cs).isApart ts ↔
      cs ≠ [] ∧ (∀ c ∈ cs, endsWord c = false) ∧ ts.head?.any isWord = false := by
  simp [isApart, and_assoc]

theorem Token.isApart_text_iff {s : String} {isMultiline : Bool} :
    (text s isMultiline).isApart ts ↔ isMultiline = false ∧
      (∀ c ∈ s.toList, standsForItself c) ∧ ts ≠ [] ∧ ts.head?.any isText = false := by
  simp [isApart, and_assoc]

theorem token?_word {cs : List Char} (hne : cs ≠ []) (hcs : ∀ c ∈ cs, endsWord c = false)
    (hrest : ∀ c ∈ rest.head?, endsWord c) : token? (cs ++ rest) = some (.word cs, rest) := by
  have hnot : ∀ c ∈ cs, (!endsWord c) = true := by simpa using hcs
  have htake : (cs ++ rest).takeWhile (fun c => !endsWord c) = cs := by
    rw [List.takeWhile_append_of_pos hnot]
    cases rest with
    | nil => simp
    | cons d rest => simp [hrest d rfl]
  have hdrop : (cs ++ rest).dropWhile (fun c => !endsWord c) = rest := by
    rw [List.dropWhile_append_of_pos hnot]
    cases rest with
    | nil => rfl
    | cons d rest => simp [hrest d rfl]
  obtain ⟨c, cs, rfl⟩ := List.exists_cons_of_ne_nil hne
  have hc : endsWord c = false := hcs c List.mem_cons_self
  have hother (d : Char) (hd : endsWord d) : c ≠ d := by
    rintro rfl
    exact Bool.false_ne_true (hc.symm.trans hd)
  have hparts := hc
  simp only [endsWord, Bool.or_eq_false_iff, Option.isSome_eq_false_iff,
    Option.isNone_iff_eq_none] at hparts
  obtain ⟨⟨⟨⟨⟨⟨hmark, hblank⟩, -⟩, -⟩, -⟩, -⟩, -⟩ := hparts
  rw [List.cons_append] at htake hdrop ⊢
  rw [List.dropWhile_cons, if_pos (hnot c List.mem_cons_self)] at hdrop
  have hquote : ¬ (decide ((c :: (cs ++ rest)).head? = some '"') ||
      decide ((c :: (cs ++ rest)).head? = some '\'')) := by
    simp [hother '"' (by decide), hother '\'' (by decide)]
  rw [token?, if_neg hquote, plainToken?]
  · simp only [hmark, hblank, hc, htake, hdrop, Bool.false_eq_true, if_false]
  · exact hother '\n' (by decide)
  · exact fun _ h _ => hother '\r' (by decide) h

theorem token?_text {s : String} (hs : ∀ c ∈ s.toList, standsForItself c)
    (halone : rest.head? ≠ some '"') :
    token? ((Token.text s false).spelling ++ rest) = some (.text s false, rest) := by
  have hspelling : (Token.text s false).spelling ++ rest = '"' :: (s.toList ++ '"' :: rest) := by
    simp [Token.spelling]
  rw [hspelling]
  have hquoted := quoted?_basic hs halone
  rw [String.ofList_toList] at hquoted
  exact hquoted

/-- What follows a token that can be written before it. -/
theorem head?_spelling (h : AreApart ts) (rest : List Char) :
    ∃ c, (ts.flatMap Token.spelling ++ '"' :: rest).head? = some c ∧
      (ts.head?.any Token.isWord = false → endsWord c) ∧
      (ts ≠ [] → ts.head?.any Token.isText = false → c ≠ '"') := by
  cases ts with
  | nil => exact ⟨'"', rfl, fun _ => by decide, fun hne => absurd rfl hne⟩
  | cons t ts =>
    rw [AreApart, Bool.and_eq_true] at h
    cases t with
    | word cs =>
      obtain ⟨hne, hcs, -⟩ := Token.isApart_word_iff.1 h.1
      obtain ⟨c, cs, rfl⟩ := List.exists_cons_of_ne_nil hne
      refine ⟨c, rfl, nofun, fun _ _ => ?_⟩
      rintro rfl
      exact absurd (hcs '"' List.mem_cons_self) (by decide)
    | text s isMultiline => exact ⟨'"', rfl, fun _ => by decide, nofun⟩
    | blank cs => cases h.1
    | _ => exact ⟨_, rfl, fun _ => by decide, fun _ _ => by decide⟩

/-- Texts can be written only if they are read as they are. -/
theorem AreApart.standsForItself {s : String} {isMultiline : Bool} (h : AreApart ts)
    (hs : .text s isMultiline ∈ ts) : ∀ c ∈ s.toList, standsForItself c := by
  induction ts with
  | nil => cases hs
  | cons t ts ih =>
    rw [AreApart, Bool.and_eq_true] at h
    rcases List.mem_cons.1 hs with rfl | hs
    · exact (Token.isApart_text_iff.1 h.1).2.1
    · exact ih h.2 hs

/-- What is written for a token is no comment. -/
theorem exists_spelling_cons {t : Token} (h : t.isApart ts) :
    ∃ d ds, t.spelling = d :: ds ∧ d ≠ '#' := by
  cases t with
  | word cs =>
    obtain ⟨hne, hcs, -⟩ := Token.isApart_word_iff.1 h
    obtain ⟨d, cs, rfl⟩ := List.exists_cons_of_ne_nil hne
    refine ⟨d, cs, rfl, ?_⟩
    rintro rfl
    exact absurd (hcs '#' List.mem_cons_self) (by decide)
  | blank cs => cases h
  | _ => exact ⟨_, _, rfl, by decide⟩

/-- **Tokens that are written before a text in quotes** are read again. -/
theorem tokensWithin_spelling (fuel : Nat) (rest : List Char) (h : AreApart ts) :
    tokensWithin (fuel + ts.length) (ts.flatMap Token.spelling ++ '"' :: rest) =
      (tokensWithin fuel ('"' :: rest)).map (ts ++ ·) := by
  induction ts with
  | nil => simp
  | cons t ts ih =>
    obtain ⟨c, hhead, hword, htext⟩ := head?_spelling (Bool.and_eq_true_iff.1 h).2 rest
    rw [AreApart, Bool.and_eq_true] at h
    have htoken : token? (t.spelling ++ (ts.flatMap Token.spelling ++ '"' :: rest)) =
        some (t, ts.flatMap Token.spelling ++ '"' :: rest) := by
      cases t with
      | word cs =>
        obtain ⟨hne, hcs, hnext⟩ := Token.isApart_word_iff.1 h.1
        refine token?_word hne hcs ?_
        rw [hhead]
        rintro _ ⟨⟩
        exact hword hnext
      | text s isMultiline =>
        obtain ⟨rfl, hs, hne, hnext⟩ := Token.isApart_text_iff.1 h.1
        refine token?_text hs ?_
        rw [hhead]
        exact fun hquote => htext hne hnext (Option.some.inj hquote)
      | blank cs => cases h.1
      | _ => rfl
    obtain ⟨d, ds, hcons, hd⟩ := exists_spelling_cons h.1
    rw [hcons, List.cons_append] at htoken
    rw [List.flatMap_cons, List.append_assoc, List.length_cons, ← Nat.add_assoc, hcons,
      List.cons_append, tokensWithin_cons hd, htoken, Option.bind_some]
    dsimp only
    rw [ih h.2, Option.map_map]
    rfl

/-- The same from the start of a file. -/
theorem tokens?_spelling (h : AreApart ts)
    (hstart : (ts.flatMap Token.spelling ++ '"' :: rest).head? ≠ some '\ufeff') :
    tokens? (String.ofList (ts.flatMap Token.spelling ++ '"' :: rest)) =
      (tokensWithin (rest.length + 1) ('"' :: rest)).map (ts ++ ·) := by
  have hlex := tokensWithin_spelling (ts.flatMap Token.spelling ++ '"' :: rest).length rest h
  have hrest : tokensWithin (ts.flatMap Token.spelling ++ '"' :: rest).length ('"' :: rest) =
      tokensWithin (rest.length + 1) ('"' :: rest) := tokensWithin_eq_of_length_le (by simp)
  rw [tokensWithin_eq_of_length_le (Nat.le_add_right _ _), hrest] at hlex
  rw [tokens?, String.toList_ofList]
  split
  next cs hcs => exact absurd (congrArg List.head? hcs) hstart
  next => exact hlex

end Matchday.Toml
