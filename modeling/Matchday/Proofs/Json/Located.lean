import Matchday.Proofs.Json.Skipped
import Matchday.Proofs.Json.ToTheEnd

/-!
# Items and members where they stand

The items of an array and the members of an object are found in its text without reading them: each
value is passed over, and the text from its start on tells where it stands.  A typed reader reads
each value from there, and ends where the value ends that is passed over.

## Main definitions

* `here`: the text from the start of a value on, the value passed over.
* `IsRead`: what is read at a place.
* `StandsNext`: where the next item or key stands.
* `Source.items`: where the items of an array stand.

## Main results

* `nextItem_cases`, `nextKey_cases`: what the next item or key is, and where it stands.
* `PassesOver.list`, `passesOver_value`: readers of arrays, and of any value.
* `PassesOver.isRead_items`: a list is read from the items of its text.
-/

namespace Matchday.Json

variable {α : Type}

/-- The text from the start of a value on, the value passed over. -/
def here : Reader Source := do
  let src ← get
  skipValue
  return src

/-- What a reader reads at a place. -/
def IsRead (read : Reader α) (src : Source) (x : α) : Prop :=
  ∃ rest, read src = .ok (x, rest)

theorem here_eq_ok {src rest : Source} (h : skipValue src = .ok ((), rest)) :
    here src = .ok (src, rest) := by
  rw [here, get_bind]
  exact bind_apply_of_eq_ok h

theorem skipValue_of_here {src v rest : Source} (h : here src = .ok (v, rest)) :
    v = src ∧ skipValue src = .ok ((), rest) := by
  rw [here, get_bind] at h
  obtain ⟨_, src', hskip, h⟩ := bind_apply_eq_ok_iff.1 h
  cases h
  exact ⟨rfl, hskip⟩

theorem consumes_here : Consumes 1 here := fun src _ _ h =>
  consumes_skipValue src (skipValue_of_here h).2

/-! ### Places of items and keys -/

/-- Where the next item or key stands: behind blanks, and behind a comma unless it is the first. -/
inductive StandsNext : Bool → Source → Source → Prop
  | first (src : Source) : StandsNext true src (src.dropWhile isSpace)
  | comma {src src' : Source} (h : src.dropWhile isSpace = some ',' :: src') :
    StandsNext false src (src'.dropWhile isSpace)

section Places

variable {item : Reader α} {first : Bool} {src src' rest : Source} {c : Option Char}

theorem nextItem_of_close (h : src.dropWhile isSpace = some ']' :: rest) :
    nextItem first item src = .ok (none, some ']' :: rest) := by
  rw [nextItem, next?_bind_of_dropWhile h]
  rfl

theorem nextItem_of_standsNext (h : StandsNext first src (c :: src')) (hc : c ≠ some ']') :
    nextItem first item src = (some <$> item) (c :: src') := by
  generalize hsrc : c :: src' = place at h
  rw [nextItem, ← bind_pure_comp]
  cases h with
  | first =>
    rw [next?_bind_of_dropWhile hsrc.symm, ← hsrc]
    dsimp only
    rw [if_neg hc, if_pos rfl]
  | comma h =>
    rw [next?_bind_of_dropWhile h]
    dsimp only
    rw [if_neg (by decide), if_neg Bool.false_ne_true, if_neg (by decide), advance_bind,
      next?_bind_of_dropWhile hsrc.symm, ← hsrc]
    dsimp only
    rw [if_neg hc]

/-- An array ends, or its next item is read where it stands. -/
theorem nextItem_cases {x : Option α} (hnext : nextItem first item src = .ok (x, rest)) :
    (x = none ∧ ∃ rest', src.dropWhile isSpace = some ']' :: rest' ∧ rest = some ']' :: rest') ∨
      ∃ c src' y, x = some y ∧ StandsNext first src (c :: src') ∧ c ≠ some ']' ∧
        item (c :: src') = .ok (y, rest) := by
  have hitem {src : Source}
      (h : (do return some (← item) : Reader (Option α)) src = .ok (x, rest)) :
      ∃ y, x = some y ∧ item src = .ok (y, rest) := by
    obtain ⟨y, src', hy, h⟩ := bind_apply_eq_ok_iff.1 h
    cases h
    exact ⟨y, rfl, hy⟩
  obtain ⟨c, src', hsrc, h⟩ := exists_cons_of_next?_bind (by intro hnone; cases hnone) hnext
  dsimp only at h
  split_ifs at h with hclose hfirst hcomma
  · cases h
    subst hclose
    exact .inl ⟨rfl, src', hsrc, rfl⟩
  · subst hfirst
    obtain ⟨y, hx, hy⟩ := hitem h
    exact .inr ⟨c, src', y, hx, hsrc ▸ .first src, hclose, hy⟩
  · exact nomatch h
  · rw [advance_bind] at h
    obtain ⟨d, src₁, hsrc₁, h⟩ := exists_cons_of_next?_bind (by intro hnone; cases hnone) h
    dsimp only at h
    split_ifs at h with hd
    · exact nomatch h
    · obtain ⟨y, hx, hy⟩ := hitem h
      rw [Bool.not_eq_true] at hfirst
      rw [not_not.1 hcomma] at hsrc
      subst hfirst
      exact .inr ⟨d, src₁, y, hx, hsrc₁ ▸ .comma hsrc, hd, hy⟩

/-- An object ends, or its next key is read where it stands. -/
theorem nextKey_cases {x : Option String} (hnext : nextKey first src = .ok (x, rest)) :
    (x = none ∧ ∃ rest', src.dropWhile isSpace = some '\x7d' :: rest' ∧
      rest = some '\x7d' :: rest') ∨
      ∃ src' key, x = some key ∧ StandsNext first src (some '"' :: src') ∧
        textTail src' = .ok (key, rest) := by
  have hkey {c : Option Char} {src : Source} (h : (do advance; return some (← textTail) :
      Reader (Option String)) (c :: src) = .ok (x, rest)) :
      ∃ key, x = some key ∧ textTail src = .ok (key, rest) := by
    rw [advance_bind] at h
    obtain ⟨key, src', hkey, h⟩ := bind_apply_eq_ok_iff.1 h
    cases h
    exact ⟨key, rfl, hkey⟩
  obtain ⟨c, src', hsrc, h⟩ := exists_cons_of_next?_bind (by intro hnone; cases hnone) hnext
  dsimp only at h
  split_ifs at h with hclose hfirst hquote hcomma
  · cases h
    subst hclose
    exact .inl ⟨rfl, src', hsrc, rfl⟩
  · subst hfirst hquote
    obtain ⟨key, hx, hkey⟩ := hkey h
    exact .inr ⟨src', key, hx, hsrc ▸ .first src, hkey⟩
  · exact nomatch h
  · exact nomatch h
  · rw [advance_bind] at h
    obtain ⟨d, src₁, hsrc₁, h⟩ := exists_cons_of_next?_bind (by intro hnone; cases hnone) h
    dsimp only at h
    split_ifs at h with hd
    · subst hd
      obtain ⟨key, hx, hkey⟩ := hkey h
      rw [Bool.not_eq_true] at hfirst
      rw [not_not.1 hcomma] at hsrc
      subst hfirst
      exact .inr ⟨src₁, key, hx, hsrc₁ ▸ .comma hsrc, hkey⟩
    · exact nomatch h
    · exact nomatch h

end Places

/-! ### Arrays and objects that are passed over -/

namespace SkipPlace

/-- In front of the next item or key of an array or an object, inside other brackets. -/
def inside (isObject first : Bool) (outer : List Bool) (src : Source) : SkipPlace :=
  if first then ⟨.opened isObject, outer, src⟩ else ⟨.done, isObject :: outer, src⟩

/-- The mark that ends an array or an object. -/
def closing (isObject : Bool) : Char :=
  if isObject then '\x7d' else ']'

variable {isObject first : Bool} {outer : List Bool} {src rest : Source}

/-- The end of an array or an object. -/
theorem reaches_of_close (h : src.dropWhile isSpace = some (closing isObject) :: rest) :
    (inside isObject first outer src).Reaches ⟨.done, outer, rest⟩ := by
  cases first with
  | true =>
    refine .single (.intro (by exact nofun) ?_)
    rw [skipStep, next?_bind_of_dropWhile h]
    dsimp only
    rw [closing, if_pos rfl]
    rfl
  | false =>
    refine .single (.intro (fun _ => List.cons_ne_nil _ _) ?_)
    rw [skipStep, next?_bind_of_dropWhile h]
    cases isObject <;> rfl

/-- The next item or key of an array or an object is passed over where it stands. -/
theorem reaches_of_standsNext {c : Option Char} {src' : Source} {q : SkipPlace}
    (h : StandsNext first src (c :: src')) (hc : c ≠ some (closing isObject))
    (hrest : Reaches ⟨if isObject then .key else .value, isObject :: outer, c :: src'⟩ q)
    (hq : q.state = .done) : (inside isObject first outer src).Reaches q := by
  generalize hsrc : c :: src' = place at h
  rw [hsrc] at hrest
  cases h with
  | first =>
    refine .head (.intro (by intro hdone; cases hdone) ?_) hrest
    rw [skipStep, next?_bind_of_dropWhile hsrc.symm]
    dsimp only
    rw [closing] at hc
    rw [if_neg hc, hsrc]
    rfl
  | comma h =>
    have hne : (if isObject then SkipState.key else .value) ≠ q.state := by
      rw [hq]
      cases isObject <;> (intro heq; cases heq)
    refine .head (.intro (fun _ => List.cons_ne_nil _ _) ?_) (hrest.of_dropWhile hne)
    rw [skipStep, next?_bind_of_dropWhile h]
    rfl

/-- The items of an array are passed over one after another. -/
theorem reaches_of_items {fuel : Nat} {vs : List Source} {src' : Source} (hfuel : src.length < fuel)
    (h : items here fuel first src = .ok (vs, src')) (hend : endArray src' = .ok ((), rest)) :
    (inside false first outer src).Reaches ⟨.done, outer, rest⟩ := by
  induction fuel generalizing first src vs with
  | zero => exact absurd hfuel (Nat.not_lt_zero _)
  | succ fuel ih =>
    obtain ⟨x, src₁, hnext, h⟩ := bind_apply_eq_ok_iff.1 h
    have hless := consumesAt_nextItem consumes_here first src hnext
    obtain ⟨rfl, src₂, hclose, rfl⟩ | ⟨c, src₂, v, rfl, hstands, hc, hv⟩ := nextItem_cases hnext
    · cases h
      cases hend
      exact reaches_of_close hclose
    · obtain ⟨vs', src₃, hitems, h⟩ := bind_apply_eq_ok_iff.1 h
      cases h
      have hvalue := (skipValue_eq_ok_iff.1 (skipValue_of_here hv).2).within (false :: outer)
      have hlength : src₁.length + 1 ≤ src.length := hless
      exact reaches_of_standsNext hstands hc (hvalue.trans (ih (by omega) hitems)) rfl

/-- The members of an object are passed over one after another. -/
theorem reaches_of_members {fuel : Nat} {ms : List (String × Source)} {src' : Source}
    (hfuel : src.length < fuel) (h : members here fuel first src = .ok (ms, src')) :
    (inside true first outer src).Reaches ⟨.done, outer, src'.tail⟩ := by
  induction fuel generalizing first src ms with
  | zero => exact absurd hfuel (Nat.not_lt_zero _)
  | succ fuel ih =>
    obtain ⟨x, src₁, hnext, h⟩ := bind_apply_eq_ok_iff.1 h
    have hless := consumesAt_nextKey first src hnext
    obtain ⟨rfl, src₂, hclose, rfl⟩ | ⟨src₂, key, rfl, hstands, hkey⟩ := nextKey_cases hnext
    · cases h
      exact reaches_of_close hclose
    · obtain ⟨_, src₃, hcolon, h⟩ := bind_apply_eq_ok_iff.1 h
      obtain ⟨v, src₄, hv, h⟩ := bind_apply_eq_ok_iff.1 h
      obtain ⟨ms', src₅, hmembers, h⟩ := bind_apply_eq_ok_iff.1 h
      cases h
      have hvalue := (skipValue_eq_ok_iff.1 (skipValue_of_here hv).2).within (true :: outer)
      have hstep : Step ⟨.key, true :: outer, some '"' :: src₂⟩ ⟨.value, true :: outer, src₃⟩ := by
        have hread : (do skipTextTail; colon; return (SkipState.value, true :: outer)) src₂ =
            .ok ((.value, true :: outer), src₃) :=
          (bind_apply_of_eq_ok (skipTextTail_of_textTail hkey)).trans (bind_apply_of_eq_ok hcolon)
        refine .intro (by exact nofun) ?_
        rw [skipStep, next?_bind_of_dropWhile rfl]
        exact hread
      have hlength : src₁.length + 1 ≤ src.length := hless
      have hcolon' : src₃.length ≤ src₁.length := consumes_colon src₁ hcolon
      have hv' : src₄.length + 1 ≤ src₃.length := consumes_here src₃ hv
      refine reaches_of_standsNext hstands (by decide) (.head hstep (hvalue.trans ?_)) rfl
      exact ih (by omega) hmembers

end SkipPlace

section Composed

variable {src src' rest : Source}

theorem skipValue_of_inside (isObject : Bool)
    (hsrc : src.dropWhile isSpace = some (if isObject then '\x7b' else '[') :: src')
    (h : (SkipPlace.inside isObject true [] src').Reaches ⟨.done, [], rest⟩) :
    skipValue src = .ok ((), rest) := by
  refine skipValue_eq_ok_iff.2 (.head (.intro (by exact nofun) ?_) h)
  rw [skipStep, next?_bind_of_dropWhile hsrc]
  cases isObject <;> rfl

theorem skipValue_of_items {vs : List Source} (hsrc : src.dropWhile isSpace = some '[' :: src')
    (h : arrayTail here src' = .ok (vs, rest)) : skipValue src = .ok ((), rest) := by
  rw [arrayTail, get_bind] at h
  obtain ⟨vs', src₁, hitems, h⟩ := bind_apply_eq_ok_iff.1 h
  obtain ⟨_, src₂, hend, h⟩ := bind_apply_eq_ok_iff.1 h
  cases h
  exact skipValue_of_inside false hsrc
    (SkipPlace.reaches_of_items (Nat.lt_succ_self _) hitems hend)

theorem skipValue_of_members {fuel : Nat} {ms : List (String × Source)}
    (hsrc : src.dropWhile isSpace = some '\x7b' :: src') (hfuel : src'.length < fuel)
    (h : members here fuel true src' = .ok (ms, rest)) :
    skipValue src = .ok ((), rest.tail) :=
  skipValue_of_inside true hsrc (SkipPlace.reaches_of_members hfuel h)

end Composed

/-! ### Lists -/

section Lists

variable {item : Reader α} {first : Bool} {src rest : Source}

/-- The items that are read stand where the items stand that are passed over. -/
theorem PassesOver.exists_items (h : PassesOver item) {fuel : Nat} {xs : List α}
    (hread : items item fuel first src = .ok (xs, rest)) :
    ∃ vs, items here fuel first src = .ok (vs, rest) ∧ List.Forall₂ (IsRead item) vs xs := by
  induction fuel generalizing first src xs with
  | zero =>
    cases hread
    exact ⟨[], rfl, .nil⟩
  | succ fuel ih =>
    obtain ⟨y, src₁, hnext, hread⟩ := bind_apply_eq_ok_iff.1 hread
    obtain ⟨rfl, src₂, hclose, rfl⟩ | ⟨c, src₂, x, rfl, hstands, hc, hx⟩ := nextItem_cases hnext
    · cases hread
      exact ⟨[], bind_apply_of_eq_ok (nextItem_of_close hclose), .nil⟩
    · obtain ⟨ys, src₃, hitems, hread⟩ := bind_apply_eq_ok_iff.1 hread
      cases hread
      obtain ⟨vs, hvs, hrel⟩ := ih hitems
      have hhere : nextItem first here src = .ok (some (c :: src₂), src₁) := by
        rw [nextItem_of_standsNext hstands hc, ← bind_pure_comp]
        exact bind_apply_of_eq_ok (here_eq_ok (h hx))
      exact ⟨(c :: src₂) :: vs,
        (bind_apply_of_eq_ok hhere).trans (bind_apply_of_eq_ok hvs), .cons ⟨_, hx⟩ hrel⟩

theorem PassesOver.exists_arrayTail (h : PassesOver item) {xs : List α}
    (hread : arrayTail item src = .ok (xs, rest)) :
    ∃ vs, arrayTail here src = .ok (vs, rest) ∧ List.Forall₂ (IsRead item) vs xs := by
  rw [arrayTail, get_bind] at hread
  obtain ⟨ys, src₁, hitems, hread⟩ := bind_apply_eq_ok_iff.1 hread
  obtain ⟨_, src₂, hend, hread⟩ := bind_apply_eq_ok_iff.1 hread
  cases hread
  obtain ⟨vs, hvs, hrel⟩ := h.exists_items hitems
  refine ⟨vs, ?_, hrel⟩
  rw [arrayTail, get_bind]
  exact (bind_apply_of_eq_ok hvs).trans (bind_apply_of_eq_ok hend)

theorem list_cases {xs : List α} (h : list item src = .ok (xs, rest)) :
    ∃ src', src.dropWhile isSpace = some '[' :: src' ∧ arrayTail item src' = .ok (xs, rest) := by
  obtain ⟨c, src', hsrc, h⟩ := exists_cons_of_next?_bind (by intro hnone; cases hnone) h
  dsimp only at h
  split at h
  next hc =>
    subst hc
    exact ⟨src', hsrc, h⟩
  next => exact absurd h (unexpected_ne_ok _ _ _ _ _)

theorem PassesOver.list (h : PassesOver item) : PassesOver (list item) := by
  intro src xs rest hread
  obtain ⟨src', hsrc, hread⟩ := list_cases hread
  obtain ⟨vs, hvs, -⟩ := h.exists_arrayTail hread
  exact skipValue_of_items hsrc hvs

/-- Where the items of an array stand. -/
def Source.items (src : Source) : List Source :=
  match Json.list here src with
  | .ok (vs, _) => vs
  | .error _ => []

end Lists

/-! ### Any value -/

/-- The members that are read stand where the members stand that are passed over. -/
theorem PassesOver.exists_members {member : Reader α} (h : PassesOver member) {fuel : Nat}
    {first : Bool} {src rest : Source} {ms : List (String × α)}
    (hread : members member fuel first src = .ok (ms, rest)) :
    ∃ vs, members here fuel first src = .ok (vs, rest) := by
  induction fuel generalizing first src ms with
  | zero =>
    cases hread
    exact ⟨[], rfl⟩
  | succ fuel ih =>
    obtain ⟨key, src₁, hnext, hread⟩ := bind_apply_eq_ok_iff.1 hread
    cases key with
    | none =>
      cases hread
      exact ⟨[], bind_apply_of_eq_ok hnext⟩
    | some key =>
      obtain ⟨_, src₂, hcolon, hread⟩ := bind_apply_eq_ok_iff.1 hread
      obtain ⟨x, src₃, hx, hread⟩ := bind_apply_eq_ok_iff.1 hread
      obtain ⟨ms', src₄, hmembers, hread⟩ := bind_apply_eq_ok_iff.1 hread
      cases hread
      obtain ⟨vs, hvs⟩ := ih hmembers
      exact ⟨(key, src₂) :: vs, (bind_apply_of_eq_ok hnext).trans <|
        (bind_apply_of_eq_ok hcolon).trans <| (bind_apply_of_eq_ok (here_eq_ok (h hx))).trans <|
          bind_apply_of_eq_ok hvs⟩

/-- A value is a scalar, or an array or an object of values that are less deep. -/
theorem value_cases {depth : Nat} {src rest : Source} {x : Json}
    (hread : value depth src = .ok (x, rest)) :
    skipValue src = .ok ((), rest) ∨ ∃ d src', depth = d + 1 ∧
      ((src.dropWhile isSpace = some '[' :: src' ∧
          ∃ xs, arrayTail (value d) src' = .ok (xs, rest)) ∨
        (src.dropWhile isSpace = some '\x7b' :: src' ∧ ∃ ms end_,
          members (value d) (src'.length + 1) true src' = .ok (ms, end_) ∧ rest = end_.tail)) := by
  have hword {first : Char} {word_ : List Char} {j : Json} {c : Option Char} {src' : Source}
      (hmem : (first, word_) ∈ [('n', ['u', 'l', 'l']), ('t', ['r', 'u', 'e']),
        ('f', ['a', 'l', 's', 'e'])]) (hc : c = some first)
      (hsrc : src.dropWhile isSpace = c :: src')
      (h : (do advance; word word_; return j) (c :: src') = .ok (x, rest)) :
      skipValue src = .ok ((), rest) := by
    subst hc
    rw [advance_bind] at h
    obtain ⟨_, src₁, hword, h⟩ := bind_apply_eq_ok_iff.1 h
    cases h
    exact skipValue_of_word hmem hsrc hword
  rw [value.eq_def] at hread
  obtain ⟨c, src', hsrc, h⟩ := exists_cons_of_next?_bind (by intro hnone; cases hnone) hread
  dsimp only at h
  split at h
  next hc => exact .inl (hword (.head _) hc hsrc h)
  split at h
  next hc => exact .inl (hword (.tail _ (.head _)) hc hsrc h)
  split at h
  next hc => exact .inl (hword (.tail _ (.tail _ (.head _))) hc hsrc h)
  split at h
  next hc =>
    obtain ⟨n, src₁, hnumber, h⟩ := bind_apply_eq_ok_iff.1 h
    cases h
    exact .inl (skipValue_of_number hc hsrc hnumber)
  split at h
  next hc =>
    subst hc
    rw [advance_bind] at h
    obtain ⟨s, src₁, htext, h⟩ := bind_apply_eq_ok_iff.1 h
    cases h
    exact .inl (skipValue_of_text hsrc htext)
  split at h
  next hc =>
    subst hc
    cases depth with
    | zero => exact nomatch h
    | succ d =>
      dsimp only at h
      rw [advance_bind] at h
      obtain ⟨xs, src₁, hitems, h⟩ := bind_apply_eq_ok_iff.1 h
      cases h
      exact .inr ⟨d, src', rfl, .inl ⟨hsrc, xs, hitems⟩⟩
  split at h
  next hc =>
    subst hc
    cases depth with
    | zero => exact nomatch h
    | succ d =>
      dsimp only at h
      rw [advance_bind, get_bind] at h
      obtain ⟨ms, src₁, hmembers, h⟩ := bind_apply_eq_ok_iff.1 h
      cases h
      exact .inr ⟨d, src', rfl, .inr ⟨hsrc, ms, src₁, hmembers, rfl⟩⟩
  next => exact nomatch h

theorem passesOver_value (depth : Nat) : PassesOver (value depth) := by
  induction depth with
  | zero =>
    intro src x rest h
    obtain h | ⟨d, _, hd, -⟩ := value_cases h
    · exact h
    · exact nomatch hd
  | succ depth ih =>
    intro src x rest h
    obtain h | ⟨d, src', ⟨⟩, ⟨hsrc, xs, hitems⟩ | ⟨hsrc, ms, end_, hmembers, rfl⟩⟩ := value_cases h
    · exact h
    · obtain ⟨vs, hvs, -⟩ := ih.exists_arrayTail hitems
      exact skipValue_of_items hsrc hvs
    · obtain ⟨vs, hvs⟩ := ih.exists_members hmembers
      exact skipValue_of_members hsrc (Nat.lt_succ_self _) hvs

end Matchday.Json
