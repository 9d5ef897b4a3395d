import Matchday.Toml.Token
import Mathlib.Data.List.Basic

/-!
# Texts in double quotes

A text in double quotes says what is written between the quotes as long as each of its characters
stands for itself.  Otherwise it says something shorter, or ends early: no token of a piece of text
is as long as the piece without its quotes, but for this one.

## Main definitions

* `Toml.standsForItself`: the characters that stand for themselves in double quotes.

## Main results

* `Toml.tokensWithin_quoted`: a text in double quotes is the token that says it.
* `Toml.tokensWithin_eq_of_length_le`: the tokens do not depend on the fuel.
* `Toml.length_le_of_text_mem`: the texts among the tokens are shorter than what they are read from.
* `Toml.standsForItself_of_text_mem`: only such characters are read as they are.
-/

namespace Matchday.Toml

variable {cs rest text : List Char} {skip fuel : Nat}

/-- A character that stands for itself in a text in double quotes. -/
def standsForItself (c : Char) : Bool :=
  c != '"' && c != '\\' && !isForbidden c

/-- The token at the start of a text that is not a comment. -/
def token? (cs : List Char) : Option (Token × List Char) :=
  if cs.head? = some '"' || cs.head? = some '\'' then quoted? cs else plainToken? cs

theorem tokensWithin_cons {c : Char} (hc : c ≠ '#') :
    tokensWithin (fuel + 1) (c :: cs) =
      (token? (c :: cs)).bind fun (t, rest) => (tokensWithin fuel rest).map (t :: ·) := by
  rw [tokensWithin, if_neg hc, token?]
  simp only [List.head?_cons, Option.some.injEq, Bool.or_eq_true, decide_eq_true_eq]
  split <;> exact Option.bind_congr fun _ _ => Option.map_eq_bind.symm

/-! ### What is read as it is -/

theorem basicText_append {s : List Char} (hs : ∀ c ∈ s, standsForItself c) (rest : List Char) :
    basicText 0 (s ++ '"' :: rest) = some (s, rest) := by
  induction s with
  | nil => rfl
  | cons c s ih =>
    obtain ⟨hc, hs⟩ := List.forall_mem_cons.1 hs
    simp only [standsForItself, Bool.and_eq_true, bne_iff_ne, Bool.not_eq_true'] at hc
    obtain ⟨⟨hquote, hslash⟩, hforbidden⟩ := hc
    rw [List.cons_append, basicText, if_neg hquote, if_neg hslash, hforbidden, ih hs]
    rfl

theorem quoted?_basic {s : List Char} (hs : ∀ c ∈ s, standsForItself c)
    (halone : rest.head? ≠ some '"') :
    quoted? ('"' :: (s ++ '"' :: rest)) = some (.text (String.ofList s) false, rest) := by
  have hbasic := basicText_append hs rest
  cases s with
  | nil =>
    cases rest with
    | nil => rfl
    | cons d rest =>
      have hd : d ≠ '"' := fun h => halone (congrArg some h)
      rw [List.nil_append, quoted?]
      · rw [← List.nil_append ('"' :: d :: rest), hbasic]
        rfl
      · rintro cs ⟨⟩
        exact hd rfl
  | cons c s =>
    have hc : c ≠ '"' := by
      rintro rfl
      exact absurd (hs '"' List.mem_cons_self) (by decide)
    rw [quoted?]
    · rw [hbasic]
      rfl
    · intro cs h
      exact hc (List.cons.inj h).1

/-- **A text in double quotes** is the token that says it, if each of its characters stands for
itself. -/
theorem tokensWithin_quoted {s : List Char} (hs : ∀ c ∈ s, standsForItself c)
    (halone : rest.head? ≠ some '"') :
    tokensWithin (fuel + 1) ('"' :: (s ++ '"' :: rest)) =
      (tokensWithin fuel rest).map (.text (String.ofList s) false :: ·) := by
  have htoken : token? ('"' :: (s ++ '"' :: rest)) = some (.text (String.ofList s) false, rest) :=
    quoted?_basic hs halone
  rw [tokensWithin_cons (by decide), htoken]
  rfl

/-! ### Lengths -/

theorem escape?_used_pos {d : Char} {used : Nat} (h : escape? cs = some (d, used)) : 0 < used := by
  unfold escape? at h
  split at h <;> simp at h <;> omega

theorem length_basicText_le (h : basicText skip cs = some (text, rest)) :
    text.length + rest.length + 1 + skip ≤ cs.length := by
  induction cs generalizing skip text with
  | nil => simp [basicText] at h
  | cons c cs ih =>
    cases skip with
    | succ skip => exact Nat.succ_le_succ (ih h)
    | zero =>
      rw [basicText] at h
      split at h
      · obtain ⟨rfl, rfl⟩ := Prod.mk.inj (Option.some.inj h)
        simp
      · split at h
        · obtain ⟨⟨d, used⟩, -, h⟩ := Option.bind_eq_some_iff.1 h
          obtain ⟨⟨text', rest'⟩, hrec, h⟩ := Option.bind_eq_some_iff.1 h
          obtain ⟨rfl, rfl⟩ := Prod.mk.inj (Option.some.inj h)
          have := ih hrec
          simp only [List.length_cons]
          omega
        · split at h
          · cases h
          · obtain ⟨⟨text', rest'⟩, hrec, h⟩ := Option.map_eq_some_iff.1 h
            obtain ⟨rfl, rfl⟩ := Prod.mk.inj h
            have := ih hrec
            simp only [List.length_cons]
            omega

/-- **A text that is as long as what is written** says what is written. -/
theorem standsForItself_of_basicText (h : basicText 0 cs = some (text, rest))
    (hlong : cs.length ≤ text.length + rest.length + 1) : ∀ c ∈ text, standsForItself c := by
  induction cs generalizing text with
  | nil => simp [basicText] at h
  | cons c cs ih =>
    rw [basicText] at h
    split at h
    · obtain ⟨rfl, rfl⟩ := Prod.mk.inj (Option.some.inj h)
      simp
    next hquote =>
      split at h
      · obtain ⟨⟨d, used⟩, hescape, h⟩ := Option.bind_eq_some_iff.1 h
        obtain ⟨⟨text', rest'⟩, hrec, h⟩ := Option.bind_eq_some_iff.1 h
        obtain ⟨rfl, rfl⟩ := Prod.mk.inj (Option.some.inj h)
        -- An escape is longer than the character it stands for.
        have hused := escape?_used_pos hescape
        have := length_basicText_le hrec
        simp only [List.length_cons] at hlong
        omega
      next hslash =>
        split at h
        · cases h
        next hforbidden =>
          obtain ⟨⟨text', rest'⟩, hrec, h⟩ := Option.map_eq_some_iff.1 h
          obtain ⟨rfl, rfl⟩ := Prod.mk.inj h
          simp only [List.length_cons] at hlong
          refine List.forall_mem_cons.2 ⟨?_, ih hrec (by omega)⟩
          simp [standsForItself, hquote, hslash, hforbidden]

theorem length_literalText_le (h : literalText cs = some (text, rest)) :
    text.length + rest.length + 1 ≤ cs.length := by
  induction cs generalizing text with
  | nil => simp [literalText] at h
  | cons c cs ih =>
    rw [literalText] at h
    split at h
    · obtain ⟨rfl, rfl⟩ := Prod.mk.inj (Option.some.inj h)
      simp
    · split at h
      · cases h
      · obtain ⟨⟨text', rest'⟩, hrec, h⟩ := Option.map_eq_some_iff.1 h
        obtain ⟨rfl, rfl⟩ := Prod.mk.inj h
        have := ih hrec
        simp only [List.length_cons]
        omega

theorem quoteRun_le_length (quote : Char) (cs : List Char) : quoteRun quote cs ≤ cs.length :=
  calc quoteRun quote cs
      ≤ (cs.take 5).length := (List.takeWhile_sublist _).length_le
    _ ≤ cs.length := (List.take_sublist 5 cs).length_le

theorem length_basicLines_le (h : basicLines skip cs = some (text, rest)) :
    text.length + rest.length + 3 + skip ≤ cs.length := by
  induction cs generalizing skip text with
  | nil => simp [basicLines] at h
  | cons c cs ih =>
    cases skip with
    | succ skip => exact Nat.succ_le_succ (ih h)
    | zero =>
      rw [basicLines] at h
      have hrun := quoteRun_le_length '"' (c :: cs)
      simp only at h
      split at h
      · obtain ⟨rfl, rfl⟩ := Prod.mk.inj (Option.some.inj h)
        rw [List.length_replicate, List.length_drop]
        omega
      · split at h
        · split at h
          · have := ih h
            simp only [List.length_cons]
            omega
          · obtain ⟨⟨d, used⟩, -, h⟩ := Option.bind_eq_some_iff.1 h
            obtain ⟨⟨text', rest'⟩, hrec, h⟩ := Option.bind_eq_some_iff.1 h
            obtain ⟨rfl, rfl⟩ := Prod.mk.inj (Option.some.inj h)
            have hle := ih hrec
            simp only [List.length_cons] at hle ⊢
            omega
        · split at h
          · obtain ⟨⟨text', rest'⟩, hrec, h⟩ := Option.map_eq_some_iff.1 h
            obtain ⟨rfl, rfl⟩ := Prod.mk.inj h
            have hle := ih hrec
            simp only [List.length_cons] at hle ⊢
            omega
          · cases h

theorem length_literalLines_le (h : literalLines cs = some (text, rest)) :
    text.length + rest.length + 3 ≤ cs.length := by
  induction cs generalizing text with
  | nil => simp [literalLines] at h
  | cons c cs ih =>
    rw [literalLines] at h
    have hrun := quoteRun_le_length '\'' (c :: cs)
    simp only at h
    split at h
    · obtain ⟨rfl, rfl⟩ := Prod.mk.inj (Option.some.inj h)
      rw [List.length_replicate, List.length_drop]
      omega
    · split at h
      · obtain ⟨⟨text', rest'⟩, hrec, h⟩ := Option.map_eq_some_iff.1 h
        obtain ⟨rfl, rfl⟩ := Prod.mk.inj h
        have hle := ih hrec
        simp only [List.length_cons] at hle ⊢
        omega
      · cases h

theorem length_dropFirstBreak_le (cs : List Char) : (dropFirstBreak cs).length ≤ cs.length := by
  unfold dropFirstBreak
  split
  · exact Nat.le_succ _
  · exact Nat.le_add_right _ 2
  · exact Nat.le_refl _

/-- A text in quotes is shorter than what is written for it. -/
theorem length_quoted?_le {t : Token} (h : quoted? cs = some (t, rest)) :
    ∃ text isMultiline, t = .text (String.ofList text) isMultiline ∧
      text.length + rest.length + 2 ≤ cs.length := by
  unfold quoted? at h
  split at h
  case h_1 cs =>
    obtain ⟨⟨text, rest'⟩, htext, h⟩ := Option.map_eq_some_iff.1 h
    obtain ⟨rfl, rfl⟩ := Prod.mk.inj h
    have := length_basicLines_le htext
    have := length_dropFirstBreak_le cs
    exact ⟨text, true, rfl, by simp only [List.length_cons]; omega⟩
  case h_2 cs =>
    obtain ⟨⟨text, rest'⟩, htext, h⟩ := Option.map_eq_some_iff.1 h
    obtain ⟨rfl, rfl⟩ := Prod.mk.inj h
    have := length_literalLines_le htext
    have := length_dropFirstBreak_le cs
    exact ⟨text, true, rfl, by simp only [List.length_cons]; omega⟩
  case h_3 cs _ =>
    obtain ⟨⟨text, rest'⟩, htext, h⟩ := Option.map_eq_some_iff.1 h
    obtain ⟨rfl, rfl⟩ := Prod.mk.inj h
    have := length_basicText_le htext
    exact ⟨text, false, rfl, by simp only [List.length_cons]; omega⟩
  case h_4 cs _ =>
    obtain ⟨⟨text, rest'⟩, htext, h⟩ := Option.map_eq_some_iff.1 h
    obtain ⟨rfl, rfl⟩ := Prod.mk.inj h
    have := length_literalText_le htext
    exact ⟨text, false, rfl, by simp only [List.length_cons]; omega⟩
  case h_5 => cases h

theorem mark?_ne_text {c : Char} {t : Token} (h : mark? c = some t) (s : String)
    (isMultiline : Bool) : t ≠ .text s isMultiline := by
  rintro rfl
  unfold mark? at h
  split at h <;> cases h

/-- A token without quotes is not empty. -/
theorem length_plainToken?_lt {t : Token} (h : plainToken? cs = some (t, rest)) :
    rest.length < cs.length ∧ ∀ s isMultiline, t ≠ .text s isMultiline := by
  unfold plainToken? at h
  split at h
  · cases h
  · obtain ⟨rfl, rfl⟩ := Prod.mk.inj (Option.some.inj h)
    exact ⟨Nat.lt_add_one _, nofun⟩
  · obtain ⟨rfl, rfl⟩ := Prod.mk.inj (Option.some.inj h)
    exact ⟨Nat.lt_add_of_pos_right (by decide : 0 < 2), nofun⟩
  · next c cs _ _ =>
    have hdrop (p : Char → Bool) : (cs.dropWhile p).length < (c :: cs).length :=
      Nat.lt_succ_of_le (List.dropWhile_sublist p).length_le
    split at h
    · next t' hmark =>
      obtain ⟨rfl, rfl⟩ := Prod.mk.inj (Option.some.inj h)
      exact ⟨by simp, mark?_ne_text hmark⟩
    · split at h
      · obtain ⟨rfl, rfl⟩ := Prod.mk.inj (Option.some.inj h)
        exact ⟨hdrop _, nofun⟩
      · split at h
        · cases h
        · obtain ⟨rfl, rfl⟩ := Prod.mk.inj (Option.some.inj h)
          exact ⟨hdrop _, nofun⟩

theorem length_afterComment?_le (h : afterComment? cs = some rest) : rest.length ≤ cs.length := by
  rw [afterComment?, Option.ite_none_left_eq_some] at h
  obtain rfl := Option.some.inj h.2
  exact (List.drop_sublist _ cs).length_le

theorem length_token?_lt {t : Token} (h : token? cs = some (t, rest)) :
    rest.length < cs.length ∧
      ∀ s isMultiline, t = .text s isMultiline → s.length + rest.length + 2 ≤ cs.length := by
  rw [token?] at h
  split at h
  · obtain ⟨text, isMultiline, rfl, hle⟩ := length_quoted?_le h
    refine ⟨by omega, ?_⟩
    rintro _ _ ⟨⟩
    rwa [String.length_ofList]
  · obtain ⟨hlt, hne⟩ := length_plainToken?_lt h
    exact ⟨hlt, fun s isMultiline ht => absurd ht (hne s isMultiline)⟩

/-! ### All tokens -/

theorem tokensWithin_congr {fuel' : Nat} (h : cs.length ≤ fuel) (h' : cs.length ≤ fuel') :
    tokensWithin fuel cs = tokensWithin fuel' cs := by
  induction fuel generalizing fuel' cs with
  | zero =>
    obtain rfl := List.length_eq_zero_iff.1 (Nat.le_zero.1 h)
    cases fuel' <;> rfl
  | succ fuel ih =>
    cases cs with
    | nil => cases fuel' <;> rfl
    | cons c cs =>
      obtain _ | fuel' := fuel'
      · simp at h'
      have hle := Nat.le_of_succ_le_succ h
      have hle' := Nat.le_of_succ_le_succ h'
      by_cases hc : c = '#'
      · rw [tokensWithin, tokensWithin, if_pos hc, if_pos hc]
        cases hrest : afterComment? cs with
        | none => rfl
        | some rest =>
          have hlen := length_afterComment?_le hrest
          exact ih (Nat.le_trans hlen hle) (Nat.le_trans hlen hle')
      · rw [tokensWithin_cons hc, tokensWithin_cons hc]
        refine Option.bind_congr fun ⟨t, rest⟩ htoken => ?_
        have hlen := Nat.le_of_lt_succ (length_token?_lt htoken).1
        dsimp only
        rw [ih (Nat.le_trans hlen hle) (Nat.le_trans hlen hle')]

/-- **The tokens do not depend on the fuel** once there is enough of it. -/
theorem tokensWithin_eq_of_length_le (h : cs.length ≤ fuel) :
    tokensWithin fuel cs = tokensWithin cs.length cs :=
  tokensWithin_congr h (Nat.le_refl _)

/-- **The texts among the tokens** are shorter than what they are read from. -/
theorem length_le_of_text_mem {ts : List Token} {s : String} {isMultiline : Bool}
    (h : tokensWithin fuel cs = some ts) (hs : .text s isMultiline ∈ ts) :
    s.length + 2 ≤ cs.length := by
  induction fuel generalizing cs ts with
  | zero =>
    rw [tokensWithin] at h
    split at h
    · obtain rfl := Option.some.inj h
      cases hs
    · cases h
  | succ fuel ih =>
    cases cs with
    | nil =>
      obtain rfl := Option.some.inj h
      cases hs
    | cons c cs =>
      by_cases hc : c = '#'
      · rw [tokensWithin, if_pos hc] at h
        obtain ⟨rest, hrest, h⟩ := Option.bind_eq_some_iff.1 h
        have hlen := length_afterComment?_le hrest
        have := ih h hs
        simp only [List.length_cons]
        omega
      · rw [tokensWithin_cons hc] at h
        obtain ⟨⟨t, rest⟩, htoken, h⟩ := Option.bind_eq_some_iff.1 h
        obtain ⟨ts', hts, rfl⟩ := Option.map_eq_some_iff.1 h
        obtain ⟨hlt, htext⟩ := length_token?_lt htoken
        rcases List.mem_cons.1 hs with ht | hs
        · have := htext s isMultiline ht.symm
          omega
        · have := ih hts hs
          omega

/-- **Only characters that stand for themselves** are read as they are in double quotes. -/
theorem standsForItself_of_text_mem {ts : List Token} {isMultiline : Bool}
    (h : tokensWithin fuel ('"' :: (text ++ ['"'])) = some ts)
    (hmem : .text (String.ofList text) isMultiline ∈ ts) : ∀ c ∈ text, standsForItself c := by
  obtain _ | fuel := fuel
  · cases h
  rw [tokensWithin_cons (by decide)] at h
  obtain ⟨⟨t, rest⟩, htoken, h⟩ := Option.bind_eq_some_iff.1 h
  obtain ⟨ts', hts, rfl⟩ := Option.map_eq_some_iff.1 h
  rcases List.mem_cons.1 hmem with rfl | hmem
  · have hquoted : quoted? ('"' :: (text ++ ['"'])) =
        some (.text (String.ofList text) isMultiline, rest) := htoken
    unfold quoted? at hquoted
    split at hquoted
    case h_1 cs hcs =>
      -- Three quotes at either end would make the text shorter.
      obtain ⟨⟨text', rest'⟩, htext, hquoted⟩ := Option.map_eq_some_iff.1 hquoted
      obtain ⟨hsame, rfl⟩ := Prod.mk.inj hquoted
      obtain rfl := String.ofList_injective (Token.text.inj hsame).1
      have hlen := congrArg List.length hcs
      have := length_basicLines_le htext
      have := length_dropFirstBreak_le cs
      simp at hlen
      omega
    case h_3 cs _ hcs =>
      obtain ⟨⟨text', rest'⟩, htext, hquoted⟩ := Option.map_eq_some_iff.1 hquoted
      obtain ⟨hsame, rfl⟩ := Prod.mk.inj hquoted
      obtain rfl := String.ofList_injective (Token.text.inj hsame).1
      have hlen := congrArg List.length hcs
      simp at hlen
      exact standsForItself_of_basicText htext (by omega)
    case h_2 hcs => exact absurd (List.cons.inj hcs).1 (by decide)
    case h_4 hcs => exact absurd (List.cons.inj hcs).1 (by decide)
    case h_5 => cases hquoted
  · have hlt := (length_token?_lt htoken).1
    have := length_le_of_text_mem hts hmem
    simp at hlt this
    omega

end Matchday.Toml
