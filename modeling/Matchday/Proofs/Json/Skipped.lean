import Matchday.Proofs.Json.Progress
import Mathlib.Data.List.DropRight
import Mathlib.Logic.Relation

/-!
# Values that are passed over

A value that nobody wants is passed over step by step, with the brackets kept that are open.  The
steps lead from the start of the value to its end, and they lead there inside any other brackets as
well.  What is read of a text, a number or a word ends where it is passed over.

## Main definitions

* `SkipPlace`: a state of the passing over, the brackets around it and the text from there on.
* `SkipPlace.Step`, `SkipPlace.Reaches`: one step, and any number of them.
* `PassesOver`: what is read of a value ends where the value ends that is passed over.

## Main results

* `skipValue_eq_ok_iff`: a value is passed over when steps lead from its start to its end.
* `SkipPlace.Reaches.within`: the same steps inside other brackets.
* `passesOver_string`, `passesOver_integer`, `PassesOver.orNull`: readers of single values.
-/

namespace Matchday.Json

variable {α β : Type}

/-! ### Characters past blanks -/

theorem next?_bind_of_dropWhile {src src' : Source} {c : Option Char}
    (h : src.dropWhile isSpace = c :: src') (f : Option (Option Char) → Reader α) :
    (next? >>= f) src = f (some c) (c :: src') := by
  change f (src.dropWhile isSpace).head? (src.dropWhile isSpace) = _
  rw [h]
  rfl

/-- Blanks in front make no difference where the next character is looked at. -/
theorem next?_bind_dropWhile (f : Option (Option Char) → Reader α) (src : Source) :
    (next? >>= f) (src.dropWhile isSpace) = (next? >>= f) src := by
  change f ((src.dropWhile isSpace).dropWhile isSpace).head? _ = f (src.dropWhile isSpace).head? _
  rw [List.dropWhile_idempotent]

/-- What is read of a text that has to go on. -/
theorem exists_cons_of_next?_bind {f : Option (Option Char) → Reader α} {src rest : Source} {x : α}
    (hnone : f none [] ≠ .ok (x, rest)) (h : (next? >>= f) src = .ok (x, rest)) :
    ∃ c src', src.dropWhile isSpace = c :: src' ∧ f (some c) (c :: src') = .ok (x, rest) := by
  change f (src.dropWhile isSpace).head? (src.dropWhile isSpace) = _ at h
  cases hsrc : src.dropWhile isSpace with
  | nil =>
    rw [hsrc] at h
    exact absurd h hnone
  | cons c src' =>
    rw [hsrc] at h
    exact ⟨c, src', rfl, h⟩

theorem unexpected_ne_ok (wanted : String) (c : Option Char) (src : Source) (x : α)
    (rest : Source) : (unexpected wanted c : Reader α) src ≠ .ok (x, rest) := by
  rw [← map_unexpected (α := Empty) Empty.elim, ← bind_pure_comp]
  intro h
  obtain ⟨y, -, -⟩ := bind_apply_eq_ok_iff.1 h
  exact y.elim

/-! ### Steps -/

/-- A state of the passing over, the brackets around it and the text from there on. -/
structure SkipPlace where
  state : SkipState
  open_ : List Bool
  src : Source

namespace SkipPlace

/-- One step, from anywhere but the end. -/
inductive Step : SkipPlace → SkipPlace → Prop
  | intro {state state' : SkipState} {open_ open_' : List Bool} {src src' : Source}
    (hend : state = .done → open_ ≠ [])
    (h : skipStep state open_ src = .ok ((state', open_'), src')) :
    Step ⟨state, open_, src⟩ ⟨state', open_', src'⟩

/-- Any number of steps. -/
abbrev Reaches : SkipPlace → SkipPlace → Prop :=
  Relation.ReflTransGen Step

/-- The same place inside other brackets. -/
def within (outer : List Bool) (p : SkipPlace) : SkipPlace :=
  ⟨p.state, p.open_ ++ outer, p.src⟩

end SkipPlace

/-- A step does not look at the brackets outside of it. -/
theorem skipStep_append {state : SkipState} {open_ : List Bool} (hend : state = .done → open_ ≠ [])
    (outer : List Bool) : skipStep state (open_ ++ outer) =
      (fun next => (next.1, next.2 ++ outer)) <$> skipStep state open_ := by
  cases state with
  | done =>
    cases open_ with
    | nil => exact absurd rfl (hend rfl)
    | cons isObject inner =>
      simp only [List.cons_append, skipStep, map_bind]
      refine congrArg _ (funext fun c => ?_)
      cases c with
      | none => rfl
      | some c =>
        dsimp only
        split_ifs <;> rfl
  | _ =>
    simp only [skipStep, map_bind]
    refine congrArg _ (funext fun c => ?_)
    cases c with
    | none => rfl
    | some c =>
      dsimp only
      split_ifs <;> first | rfl | simp only [map_bind, map_pure]

/-- Blanks in front make no difference to a step. -/
theorem skipStep_dropWhile {state : SkipState} {open_ : List Bool}
    (hend : state = .done → open_ ≠ []) (src : Source) :
    skipStep state open_ (src.dropWhile isSpace) = skipStep state open_ src := by
  cases state with
  | done =>
    cases open_ with
    | nil => exact absurd rfl (hend rfl)
    | cons isObject outer => exact next?_bind_dropWhile _ src
  | _ => exact next?_bind_dropWhile _ src

namespace SkipPlace

variable {p q : SkipPlace} {rest : Source}

theorem Step.within (h : Step p q) (outer : List Bool) :
    Step (p.within outer) (q.within outer) := by
  obtain ⟨hend, h⟩ := h
  refine .intro (fun hdone => List.append_ne_nil_of_left_ne_nil (hend hdone) outer) ?_
  rw [skipStep_append hend, ← bind_pure_comp]
  exact bind_apply_of_eq_ok h

/-- **The steps that end a value end it inside other brackets as well.** -/
theorem Reaches.within (h : p.Reaches ⟨.done, [], rest⟩) (outer : List Bool) :
    (p.within outer).Reaches ⟨.done, outer, rest⟩ :=
  h.lift (SkipPlace.within outer) fun _ _ hstep => hstep.within outer

/-- Blanks in front of a place are no step. -/
theorem Reaches.of_dropWhile {state : SkipState} {open_ : List Bool} {src : Source}
    (h : Reaches ⟨state, open_, src.dropWhile isSpace⟩ q) (hne : state ≠ q.state) :
    Reaches ⟨state, open_, src⟩ q := by
  obtain rfl | ⟨p, ⟨hend, hstep⟩, hrest⟩ := h.cases_head
  · exact absurd rfl hne
  · rw [skipStep_dropWhile hend] at hstep
    exact .head (.intro hend hstep) hrest

/-- A bound for the number of steps.  No character is taken behind an opening bracket that is not
closed at once. -/
def bound (p : SkipPlace) : Nat :=
  match p.state with
  | .opened _ => 2 * p.src.length + 1
  | _ => 2 * p.src.length

theorem bound_le (p : SkipPlace) : p.bound ≤ 2 * p.src.length + 1 := by
  rw [bound]
  split <;> omega

theorem Step.bound_lt (h : Step p q) : q.bound < p.bound := by
  obtain @⟨state, state', open_, open_', src, src', hend, h⟩ := h
  by_cases hopened : ∃ isObject, state = .opened isObject
  · obtain ⟨isObject, rfl⟩ := hopened
    have hless : src'.length ≤ src.length := consumes_skipStep_opened isObject open_ src h
    have hstate : ∀ isObject, state' ≠ .opened isObject := by
      obtain ⟨c, src₁, -, h⟩ := exists_cons_of_next?_bind (by intro hnone; cases hnone) h
      dsimp only at h
      by_cases hc : c = some (if isObject then '\x7d' else ']')
      · rw [if_pos hc] at h
        cases h
        exact nofun
      · rw [if_neg hc] at h
        cases h
        cases isObject <;> exact nofun
    have hbound : bound ⟨state', open_', src'⟩ = 2 * src'.length := by
      rw [bound]
      split
      next isObject hopened => exact absurd hopened (hstate isObject)
      next => rfl
    rw [hbound]
    exact Nat.lt_succ_of_le (Nat.mul_le_mul_left 2 hless)
  · have hless : src'.length + 1 ≤ src.length :=
      consumes_skipStep (not_exists.1 hopened) hend src h
    have hbound : bound ⟨state, open_, src⟩ = 2 * src.length := by
      rw [bound]
      split
      next isObject hopened' => exact absurd ⟨isObject, hopened'⟩ hopened
      next => rfl
    have hle := bound_le ⟨state', open_', src'⟩
    dsimp only at hle
    omega

/-- With fuel for all steps the fuel does not matter. -/
theorem skipSteps_eq_ok_iff {fuel : Nat} (hfuel : p.bound < fuel) :
    skipSteps fuel p.state p.open_ p.src = .ok ((), rest) ↔ p.Reaches ⟨.done, [], rest⟩ := by
  induction fuel generalizing p with
  | zero => exact absurd hfuel (Nat.not_lt_zero _)
  | succ fuel ih =>
    obtain ⟨state, open_, src⟩ := p
    by_cases hend : state = .done ∧ open_ = []
    · obtain ⟨rfl, rfl⟩ := hend
      constructor
      · rintro ⟨⟩
        exact .refl
      · intro h
        obtain heq | ⟨_, ⟨hend, -⟩, -⟩ := h.cases_head
        · cases heq
          rfl
        · exact absurd rfl (hend rfl)
    · have hend' : state = .done → open_ ≠ [] := fun hdone hnil => hend ⟨hdone, hnil⟩
      dsimp only
      rw [skipSteps.eq_3 _ _ _ hend', bind_apply_eq_ok_iff]
      refine Iff.trans ?_ Relation.ReflTransGen.cases_head_iff.symm
      constructor
      · rintro ⟨⟨state', open_'⟩, src', hstep, h⟩
        have hs : Step ⟨state, open_, src⟩ ⟨state', open_', src'⟩ := .intro hend' hstep
        have hless := hs.bound_lt
        exact .inr ⟨_, hs, (ih (by omega)).1 h⟩
      · rintro (heq | ⟨q, hs, h⟩)
        · cases heq
          exact absurd ⟨rfl, rfl⟩ hend
        · have hless := hs.bound_lt
          obtain ⟨-, hstep⟩ := hs
          exact ⟨_, _, hstep, (ih (by omega)).2 h⟩

end SkipPlace

open SkipPlace

/-- **A value is passed over when steps lead from its start to its end.** -/
theorem skipValue_eq_ok_iff {src rest : Source} :
    skipValue src = .ok ((), rest) ↔ Reaches ⟨.value, [], src⟩ ⟨.done, [], rest⟩ := by
  have hbound := bound_le ⟨.value, [], src⟩
  dsimp only at hbound
  rw [skipValue, get_bind]
  exact skipSteps_eq_ok_iff (p := ⟨.value, [], src⟩) (by omega)

theorem skipValue_of_step {src rest : Source}
    (h : skipStep .value [] src = .ok ((.done, []), rest)) : skipValue src = .ok ((), rest) :=
  skipValue_eq_ok_iff.2 (.single (.intro nofun h))

theorem skipValue_of_dropWhile {src rest : Source}
    (h : skipValue (src.dropWhile isSpace) = .ok ((), rest)) : skipValue src = .ok ((), rest) :=
  skipValue_eq_ok_iff.2 ((skipValue_eq_ok_iff.1 h).of_dropWhile nofun)

/-! ### Texts -/

/-- Characters that are left out. -/
theorem skipText_eq_skipText_drop (skip : Nat) (src : Source) :
    skipText skip src = skipText 0 (src.drop skip) := by
  induction skip generalizing src with
  | zero => rfl
  | succ skip ih =>
    cases src with
    | nil => rfl
    | cons c src => exact ih src

/-- Behind a leading surrogate there is a second escape. -/
theorem unicodeEscape_eq_ok {src : Source} {c : Char} {n : Nat}
    (h : unicodeEscape src = .ok (c, n)) : ∃ m, quad src = .ok m ∧ (n = 4 ∨ n = 10 ∧
      ∃ rest m', src.drop 4 = some '\\' :: some 'u' :: rest ∧ quad rest = .ok m') := by
  obtain ⟨m, hm, h⟩ := bind_eq_ok_iff.1 h
  refine ⟨m, hm, ?_⟩
  dsimp only at h
  split at h
  · exact nomatch h
  · split at h
    · cases h
      exact .inl rfl
    · split at h
      next => exact nomatch h
      next => exact nomatch h
      next rest hrest =>
        obtain ⟨m', hm', h⟩ := bind_eq_ok_iff.1 h
        split at h
        · obtain ⟨-, rfl⟩ := Prod.mk.inj (Except.ok.inj h)
          exact .inr ⟨rfl, rest, m', hrest, hm'⟩
        · exact nomatch h
      next => exact nomatch h

theorem escapeLength_u {src : Source} {m : Nat} (h : quad src = .ok m) :
    escapeLength (some 'u' :: src) = .ok 5 := by
  rw [escapeLength, h]
  rfl

/-- An escape is passed over as it is read.  The second escape behind a leading surrogate is passed
over as an escape of its own. -/
theorem exists_escapeLength {src : Source} {c : Char} {used : Nat}
    (h : escape src = .ok (c, used)) :
    ∃ n, escapeLength src = .ok n ∧ skipText n src = skipText used src := by
  rw [escape.eq_def] at h
  split at h
  next => exact nomatch h
  next src =>
    cases hunicode : unicodeEscape src with
    | error e =>
      rw [hunicode] at h
      exact nomatch h
    | ok read =>
      obtain ⟨d, n⟩ := read
      rw [hunicode] at h
      cases h
      obtain ⟨m, hm, rfl | ⟨rfl, rest, m', hrest, hm'⟩⟩ := unicodeEscape_eq_ok hunicode
      · exact ⟨5, escapeLength_u hm, rfl⟩
      · refine ⟨5, escapeLength_u hm, ?_⟩
        have hdrop : src.drop 10 = rest.drop 4 := by
          rw [show (10 : Nat) = 4 + 6 from rfl, ← List.drop_drop, hrest]
          rfl
        rw [skipText_eq_skipText_drop 5, skipText_eq_skipText_drop 11, List.drop_succ_cons,
          List.drop_succ_cons, hdrop, hrest, skipText, if_neg (by decide), if_pos rfl]
        change (escapeLength (some 'u' :: rest) >>= fun used =>
          skipText used (some 'u' :: rest)) = _
        rw [escapeLength_u hm']
        exact skipText_eq_skipText_drop 5 _
  next d src hd =>
    cases hshort : shortEscape? d with
    | none =>
      rw [hshort] at h
      exact nomatch h
    | some d' =>
      rw [hshort] at h
      cases h
      refine ⟨1, ?_, rfl⟩
      rw [escapeLength.eq_3 _ _ hd, hshort]
      rfl
  next => exact nomatch h

/-- **A text ends where it is passed over.** -/
theorem skipText_of_textUnits {skip : Nat} {src inner rest : Source}
    (h : textUnits skip src = .ok (inner, rest)) : skipText skip src = .ok rest := by
  fun_induction textUnits skip src generalizing inner rest with
  | case1 => cases h
  | case2 skip _ src ih => exact ih h
  | case3 src =>
    cases h
    rw [skipText, if_pos rfl]
  | case4 src hc ih =>
    obtain ⟨⟨d, used⟩, hescape, h⟩ := bind_eq_ok_iff.1 h
    obtain ⟨⟨inner', rest'⟩, htail, h⟩ := bind_eq_ok_iff.1 h
    cases h
    obtain ⟨n, hn, hskip⟩ := exists_escapeLength hescape
    rw [skipText, if_neg hc, if_pos rfl]
    exact bind_eq_ok_iff.2 ⟨n, hn, hskip.trans (ih used htail)⟩
  | case5 => cases h
  | case6 c src hquote hslash hcontrol ih =>
    obtain ⟨⟨inner', rest'⟩, htail, h⟩ := bind_eq_ok_iff.1 h
    cases h
    rw [skipText, if_neg hquote, if_neg hslash, if_neg hcontrol]
    exact ih htail

theorem skipTextTail_of_textTail {src rest : Source} {s : String}
    (h : textTail src = .ok (s, rest)) : skipTextTail src = .ok ((), rest) := by
  obtain ⟨⟨inner, rest'⟩, hunits, h⟩ := bind_eq_ok_iff.1 h
  dsimp only at h
  split at h
  · cases h
    exact skipTextTail_eq_ok_iff.2 (skipText_of_textUnits hunits)
  · exact nomatch h

/-! ### Numbers -/

theorem digits_cons_ne_nil {c : Option Char} (hc : isDigit c = true) (src : Source) :
    digits (c :: src) ≠ [] := by
  cases c with
  | none => exact nomatch hc
  | some c =>
    rw [digits, List.takeWhile_cons_of_pos hc]
    exact List.cons_ne_nil _ _

theorem digits_cons_eq_nil {c : Option Char} (hc : ¬ isDigit c = true) (src : Source) :
    digits (c :: src) = [] := by
  rw [digits, List.takeWhile_cons_of_neg hc]
  rfl

theorem skipExponent_of_withExponent {negative : Bool} {n : Nat} {exponent : Int}
    {src rest : Source} {x : Number} (h : withExponent negative n exponent src = .ok (x, rest)) :
    skipExponent src = .ok rest := by
  rw [withExponent.eq_def] at h
  split at h
  next c src =>
    rw [skipExponent]
    split at h
    next hc =>
      rw [if_pos hc]
      dsimp only at h ⊢
      split at h
      next => cases h
      next d src' hsrc =>
        split at h
        next hd =>
          obtain ⟨y, -, h⟩ := bind_eq_ok_iff.1 h
          cases h
          rw [hsrc, if_neg (digits_cons_ne_nil hd src')]
        next => cases h
    next hc =>
      rw [if_neg hc]
      obtain ⟨y, -, h⟩ := bind_eq_ok_iff.1 h
      cases h
      rfl
  next hsrc =>
    obtain ⟨y, -, h⟩ := bind_eq_ok_iff.1 h
    cases h
    rw [skipExponent.eq_def]
    split
    next c src => exact absurd rfl (hsrc c src)
    next => rfl

theorem skipFraction_of_withFraction {negative : Bool} {n : Nat} {exponent : Int}
    {src rest : Source} {x : Number} (h : withFraction negative n exponent src = .ok (x, rest)) :
    skipFraction (some '.' :: src) = .ok rest := by
  rw [withFraction] at h
  split at h
  next => cases h
  next hne =>
    rw [skipFraction, if_neg hne]
    exact skipExponent_of_withExponent h

theorem skipFraction_of_afterWhole {negative : Bool} {n : Nat} {left : List Char}
    {src rest : Source} {x : Number} (h : afterWhole negative n left src = .ok (x, rest)) :
    skipFraction src = .ok rest := by
  rw [afterWhole.eq_def] at h
  split at h
  next => exact skipFraction_of_withFraction h
  next => exact skipExponent_of_withExponent h
  next => exact skipExponent_of_withExponent h
  next hpoint he hE =>
    have hskip : skipExponent src = .ok src := by
      rw [skipExponent.eq_def]
      split
      next c src =>
        rw [if_neg]
        simp only [Bool.or_eq_true, decide_eq_true_eq]
        rintro (rfl | rfl)
        · exact he _ rfl
        · exact hE _ rfl
      next => rfl
    rw [skipFraction.eq_2 _ hpoint]
    split_ifs at h
    · exact skipExponent_of_withExponent h
    all_goals
      cases h
      exact hskip

theorem skipUnsigned_of_unsignedNumber {negative : Bool} {src rest : Source} {x : Number}
    (h : unsignedNumber negative src = .ok (x, rest)) : skipUnsigned src = .ok rest := by
  rw [unsignedNumber.eq_def] at h
  split at h
  next => cases h
  next c src =>
    rw [skipUnsigned]
    split at h
    next hzero =>
      subst hzero
      split at h
      next d src =>
        split at h
        · cases h
        next hd =>
          rw [if_neg (by simp [digits_cons_eq_nil hd, isDigit]), List.dropWhile_cons_of_neg hd]
          exact skipFraction_of_afterWhole h
      next => exact skipFraction_of_afterWhole h
    next hzero =>
      split at h
      next hdigit =>
        rw [if_neg (by simp [hdigit, hzero])]
        exact skipFraction_of_afterWhole h
      next => cases h

/-- **A number ends where it is passed over.** -/
theorem skipNumber_of_number {src rest : Source} {x : Number}
    (h : number src = .ok (x, rest)) : skipNumber src = .ok ((), rest) := by
  rw [number.eq_def] at h
  split at h
  next src =>
    rw [skipNumber, skipUnsigned_of_unsignedNumber h]
    rfl
  next hsign =>
    rw [skipNumber.eq_2 _ hsign, skipUnsigned_of_unsignedNumber h]
    rfl

/-! ### Single values -/

/-- What is read of a value ends where the value ends that is passed over. -/
def PassesOver (read : Reader α) : Prop :=
  ∀ ⦃src x rest⦄, read src = .ok (x, rest) → skipValue src = .ok ((), rest)

section Steps

variable {src src' rest : Source}

theorem skipValue_of_word {first : Char} {word_ : List Char}
    (hword : (first, word_) ∈ [('n', ['u', 'l', 'l']), ('t', ['r', 'u', 'e']),
      ('f', ['a', 'l', 's', 'e'])])
    (hsrc : src.dropWhile isSpace = some first :: src') (h : word word_ src' = .ok ((), rest)) :
    skipValue src = .ok ((), rest) := by
  have hstep : (word word_ >>= fun _ => pure (SkipState.done, ([] : List Bool))) src' =
      .ok ((.done, []), rest) := bind_apply_of_eq_ok h
  refine skipValue_of_step ?_
  rw [skipStep, next?_bind_of_dropWhile hsrc]
  simp only [List.mem_cons, Prod.mk.injEq, List.not_mem_nil, or_false] at hword
  obtain ⟨rfl, rfl⟩ | ⟨rfl, rfl⟩ | ⟨rfl, rfl⟩ := hword <;> exact hstep

theorem skipValue_of_number {c : Option Char} {x : Number}
    (hc : (decide (c = some '-') || isDigit c) = true) (hsrc : src.dropWhile isSpace = c :: src')
    (h : number (c :: src') = .ok (x, rest)) : skipValue src = .ok ((), rest) := by
  refine skipValue_of_step ?_
  have hword : c ≠ some 'n' ∧ c ≠ some 't' ∧ c ≠ some 'f' := by
    refine ⟨?_, ?_, ?_⟩ <;> (rintro rfl; exact absurd hc (by decide))
  rw [skipStep, next?_bind_of_dropWhile hsrc]
  dsimp only
  rw [if_neg hword.1, if_neg hword.2.1, if_neg hword.2.2, if_pos hc]
  exact bind_apply_of_eq_ok (skipNumber_of_number h)

theorem skipValue_of_text {s : String} (hsrc : src.dropWhile isSpace = some '"' :: src')
    (h : textTail src' = .ok (s, rest)) : skipValue src = .ok ((), rest) := by
  have hstep : (skipTextTail >>= fun _ => pure (SkipState.done, ([] : List Bool))) src' =
      .ok ((.done, []), rest) := bind_apply_of_eq_ok (skipTextTail_of_textTail h)
  refine skipValue_of_step ?_
  rw [skipStep, next?_bind_of_dropWhile hsrc]
  exact hstep

end Steps

theorem passesOver_string : PassesOver string := by
  intro src s rest h
  obtain ⟨c, src', hsrc, h⟩ := exists_cons_of_next?_bind (by intro hnone; cases hnone) h
  dsimp only at h
  split at h
  next hquote =>
    subst hquote
    exact skipValue_of_text hsrc h
  next => exact absurd h (unexpected_ne_ok _ _ _ _ _)

theorem passesOver_integer (wanted : String) (convert : Int → Option α) :
    PassesOver (integer wanted convert) := by
  intro src x rest h
  obtain ⟨c, src', hsrc, h⟩ := exists_cons_of_next?_bind (by intro hnone; cases hnone) h
  dsimp only at h
  split at h
  next hc =>
    obtain ⟨y, rest', hy, h⟩ := bind_apply_eq_ok_iff.1 h
    have hskip := skipValue_of_number hc hsrc hy
    cases y with
    | float y => exact nomatch h
    | int n =>
      dsimp only at h
      cases hn : convert n with
      | none =>
        rw [hn] at h
        exact nomatch h
      | some x =>
        rw [hn] at h
        cases h
        exact hskip
  next => exact absurd h (unexpected_ne_ok _ _ _ _ _)

theorem PassesOver.orNull {read : Reader α} (h : PassesOver read) : PassesOver (orNull read) := by
  intro src x rest hread
  obtain ⟨c, src', hc, hread⟩ := bind_apply_eq_ok_iff.1 hread
  obtain ⟨hhead, rfl⟩ := Prod.mk.inj (Except.ok.inj hc)
  split at hread
  next hnull =>
    rw [hnull, List.head?_eq_some_iff] at hhead
    obtain ⟨src', hsrc⟩ := hhead
    rw [hsrc, advance_bind] at hread
    obtain ⟨_, src₁, hword, hread⟩ := bind_apply_eq_ok_iff.1 hread
    cases hread
    exact skipValue_of_word (.head _) hsrc hword
  next =>
    obtain ⟨y, src₁, hy, hread⟩ := bind_apply_eq_ok_iff.1 hread
    cases hread
    exact skipValue_of_dropWhile (h hy)

end Matchday.Json
