import Matchday.Proofs.Json.Reading

/-!
# What readers leave

A reader takes a value from the start of a text and leaves the rest, which is never more than it was
given.  That holds of readers one after another when it holds of each of them.

## Main definitions

* `ConsumesAt`, `Consumes`: a reader takes at least a number of characters from what it reads.

## Main results

* `Consumes.bind`, `consumesAt_next?_bind`: readers one after another.
* `consumes_string`, `consumes_integer`, `consumes_skipValue`: readers of single values, and of
  values that are passed over.
-/

namespace Matchday.Json

variable {α β : Type}

/-! ### Readers one after another -/

/-- What is read from a text takes some of its characters, at least as many as a size tells. -/
def ConsumesAt (size : α → Nat) (read : Reader α) (src : Source) : Prop :=
  ∀ ⦃x : α⦄ ⦃rest : Source⦄, read src = .ok (x, rest) → rest.length + size x ≤ src.length

/-- A reader takes at least `n` characters from each text that it reads. -/
def Consumes (n : Nat) (read : Reader α) : Prop :=
  ∀ src, ConsumesAt (fun _ => n) read src

theorem bind_apply_eq_ok_iff {x : Reader α} {f : α → Reader β} {src rest : Source} {b : β} :
    (x >>= f) src = .ok (b, rest) ↔ ∃ a src', x src = .ok (a, src') ∧ f a src' = .ok (b, rest) := by
  change x src >>= (fun read => f read.1 read.2) = _ ↔ _
  rw [bind_eq_ok_iff, Prod.exists]

/-- What comes next may be replaced where it reads the same. -/
theorem bind_apply_congr {x : Reader α} {f g : α → Reader β} {src : Source}
    (h : ∀ a src', x src = .ok (a, src') → f a src' = g a src') :
    (x >>= f) src = (x >>= g) src := by
  change x src >>= (fun read => f read.1 read.2) = x src >>= fun read => g read.1 read.2
  cases hx : x src with
  | error e => rfl
  | ok read => exact h read.1 read.2 hx

theorem bind_apply_congr_left {x y : Reader α} {src src' : Source} (h : x src = y src')
    (f : α → Reader β) : (x >>= f) src = (y >>= f) src' := by
  change x src >>= (fun read => f read.1 read.2) = y src' >>= fun read => f read.1 read.2
  rw [h]

namespace Consumes

variable {n m : Nat} {read : Reader α}

theorem mono (h : Consumes n read) (hn : m ≤ n) : Consumes m read := fun src _ _ hread =>
  (Nat.add_le_add_left hn _).trans (h src hread)

theorem pure (x : α) : Consumes 0 (Pure.pure x : Reader α) := by
  rintro src _ _ ⟨⟩
  exact le_rfl

theorem bind {f : α → Reader β} (hread : Consumes n read) (hf : ∀ x, Consumes m (f x)) :
    Consumes (n + m) (read >>= f) := by
  intro src y rest h
  obtain ⟨x, src', hx, hy⟩ := bind_apply_eq_ok_iff.1 h
  have hfirst : src'.length + n ≤ src.length := hread src hx
  have hsecond : rest.length + m ≤ src'.length := hf x src' hy
  change rest.length + (n + m) ≤ src.length
  omega

theorem map (hread : Consumes n read) (f : α → β) : Consumes n (f <$> read) := by
  rw [← bind_pure_comp]
  exact hread.bind fun x => pure (f x)

end Consumes

/-- What is read after the next character past blanks has been shown. -/
theorem consumesAt_next?_bind {size : α → Nat} {f : Option (Option Char) → Reader α}
    (hnone : ConsumesAt size (f none) [])
    (hsome : ∀ c src, ConsumesAt size (f (some c)) (c :: src)) (src : Source) :
    ConsumesAt size (next? >>= f) src := by
  intro x rest h
  have hdrop : (src.dropWhile isSpace).length ≤ src.length :=
    (List.dropWhile_suffix _).length_le
  change f (src.dropWhile isSpace).head? (src.dropWhile isSpace) = _ at h
  generalize src.dropWhile isSpace = src' at h hdrop
  cases src' with
  | nil => exact (hnone h).trans hdrop
  | cons c src' => exact (hsome c src' h).trans hdrop

/-- The character that is left out counts as well. -/
theorem ConsumesAt.advance_bind {n k : α → Nat} {f : Unit → Reader α} {src : Source}
    (h : ConsumesAt n (f ()) src) (hk : ∀ x, k x ≤ n x + 1) (c : Option Char) :
    ConsumesAt k (advance >>= f) (c :: src) := by
  intro x rest hread
  have hrest := h hread
  have hx := hk x
  rw [List.length_cons]
  omega

theorem consumesAt_pure {size : α → Nat} {x : α} (hx : size x = 0) (src : Source) :
    ConsumesAt size (pure x) src := by
  rintro _ _ ⟨⟩
  rw [hx]
  exact le_rfl

theorem consumesAt_throw {size : α → Nat} (e : ReadError) (src : Source) :
    ConsumesAt size (throw e) src :=
  fun _ _ h => nomatch h

theorem consumes_advance : Consumes 0 advance := by
  rintro src _ _ ⟨⟩
  rw [List.length_tail]
  exact Nat.sub_le _ _

/-- Nothing is read where something else was wanted. -/
theorem consumes_unexpected (n : Nat) (wanted : String) (c : Option Char) :
    Consumes n (unexpected wanted c : Reader α) := by
  rw [← map_unexpected (α := Empty) Empty.elim]
  exact Consumes.map (fun _ x _ _ => x.elim) _

/-! ### Words, texts and numbers -/

theorem consumes_word (cs : List Char) : Consumes 0 (word cs) := by
  induction cs with
  | nil => exact .pure ()
  | cons c cs ih =>
    intro src x rest h
    cases src with
    | nil => exact nomatch h
    | cons d src =>
      change (if d = some c then word cs src else Except.error _) = _ at h
      split at h
      · exact (ih src h).trans (Nat.le_succ _)
      · exact nomatch h

theorem length_of_textUnits {skip : Nat} {src inner rest : Source}
    (h : textUnits skip src = .ok (inner, rest)) : rest.length + 1 ≤ src.length := by
  fun_induction textUnits skip src generalizing inner rest with
  | case1 => exact nomatch h
  | case2 skip _ src ih => exact (ih h).trans (Nat.le_succ _)
  | case3 src => cases h; exact le_rfl
  | case4 src _ ih =>
    obtain ⟨⟨d, used⟩, -, h⟩ := bind_eq_ok_iff.1 h
    obtain ⟨⟨inner', rest'⟩, htail, h⟩ := bind_eq_ok_iff.1 h
    cases h
    exact (ih used htail).trans (Nat.le_succ _)
  | case5 => exact nomatch h
  | case6 c src _ _ _ ih =>
    obtain ⟨⟨inner', rest'⟩, htail, h⟩ := bind_eq_ok_iff.1 h
    cases h
    exact (ih htail).trans (Nat.le_succ _)

theorem consumes_textTail : Consumes 1 textTail := by
  intro src s rest h
  obtain ⟨⟨inner, rest'⟩, hunits, h⟩ := bind_eq_ok_iff.1 h
  have hlength := length_of_textUnits hunits
  dsimp only at h
  split at h
  · cases h
    exact hlength
  · exact nomatch h

theorem length_of_skipText {skip : Nat} {src rest : Source} (h : skipText skip src = .ok rest) :
    rest.length + 1 ≤ src.length := by
  fun_induction skipText skip src generalizing rest with
  | case1 => exact nomatch h
  | case2 skip _ src ih => exact (ih h).trans (Nat.le_succ _)
  | case3 src => cases h; exact le_rfl
  | case4 src _ ih =>
    obtain ⟨used, -, h⟩ := bind_eq_ok_iff.1 h
    exact (ih used h).trans (Nat.le_succ _)
  | case5 => exact nomatch h
  | case6 c src _ _ _ ih => exact (ih h).trans (Nat.le_succ _)

theorem length_dropWhile_isDigit (src : Source) : (src.dropWhile isDigit).length ≤ src.length :=
  (List.dropWhile_suffix _).length_le

theorem length_dropSign (src : Source) : (dropSign src).length ≤ src.length := by
  rw [dropSign.eq_def]
  split <;> simp

/-- A number with an exponent, written or not, is floating point. -/
theorem exists_float_of_withExponent {negative : Bool} {n : Nat} {exponent : Int}
    {src rest : Source} {x : Number} (h : withExponent negative n exponent src = .ok (x, rest)) :
    (∃ y, x = .float y) ∧ rest.length ≤ src.length := by
  rw [withExponent.eq_def] at h
  split at h
  next c src =>
    split at h
    · dsimp only at h
      split at h
      next => exact nomatch h
      next =>
        split at h
        · obtain ⟨y, -, h⟩ := bind_eq_ok_iff.1 h
          cases h
          exact ⟨⟨y, rfl⟩, (length_dropWhile_isDigit _).trans
            ((length_dropSign src).trans (Nat.le_succ _))⟩
        · exact nomatch h
    · obtain ⟨y, -, h⟩ := bind_eq_ok_iff.1 h
      cases h
      exact ⟨⟨y, rfl⟩, le_rfl⟩
  next =>
    obtain ⟨y, -, h⟩ := bind_eq_ok_iff.1 h
    cases h
    exact ⟨⟨y, rfl⟩, le_rfl⟩

theorem length_of_withFraction {negative : Bool} {n : Nat} {exponent : Int} {src rest : Source}
    {x : Number} (h : withFraction negative n exponent src = .ok (x, rest)) :
    rest.length ≤ src.length := by
  rw [withFraction] at h
  split at h
  · exact nomatch h
  · exact (exists_float_of_withExponent h).2.trans (length_dropWhile_isDigit src)

theorem length_of_afterWhole {negative : Bool} {n : Nat} {left : List Char} {src rest : Source}
    {x : Number} (h : afterWhole negative n left src = .ok (x, rest)) :
    rest.length ≤ src.length := by
  rw [afterWhole.eq_def] at h
  split at h
  next => exact (length_of_withFraction h).trans (Nat.le_succ _)
  next => exact (exists_float_of_withExponent h).2
  next => exact (exists_float_of_withExponent h).2
  next =>
    split_ifs at h
    · exact (exists_float_of_withExponent h).2
    all_goals
      cases h
      exact le_rfl

theorem length_of_unsignedNumber {negative : Bool} {src rest : Source} {x : Number}
    (h : unsignedNumber negative src = .ok (x, rest)) : rest.length ≤ src.length := by
  rw [unsignedNumber.eq_def] at h
  split at h
  next => cases h
  next c src =>
    split at h
    · split at h
      · split at h
        · cases h
        · exact (length_of_afterWhole h).trans (Nat.le_succ _)
      · exact (length_of_afterWhole h).trans (Nat.zero_le _)
    · split at h
      · exact (length_of_afterWhole h).trans ((length_dropWhile_isDigit src).trans (Nat.le_succ _))
      · cases h

theorem consumes_number : Consumes 0 number := by
  intro src x rest h
  rw [number.eq_def] at h
  split at h
  next => exact (length_of_unsignedNumber h).trans (Nat.le_succ _)
  next => exact length_of_unsignedNumber h

theorem length_of_skipExponent {src rest : Source} (h : skipExponent src = .ok rest) :
    rest.length ≤ src.length := by
  rw [skipExponent.eq_def] at h
  split at h
  next c src =>
    split at h
    · dsimp only at h
      split at h
      · exact nomatch h
      · cases h
        exact (length_dropWhile_isDigit _).trans ((length_dropSign src).trans (Nat.le_succ _))
    · cases h
      exact le_rfl
  next =>
    cases h
    exact le_rfl

theorem length_of_skipFraction {src rest : Source} (h : skipFraction src = .ok rest) :
    rest.length ≤ src.length := by
  rw [skipFraction.eq_def] at h
  split at h
  next src =>
    split at h
    · exact nomatch h
    · exact (length_of_skipExponent h).trans ((length_dropWhile_isDigit src).trans (Nat.le_succ _))
  next => exact length_of_skipExponent h

theorem length_of_skipUnsigned {src rest : Source} (h : skipUnsigned src = .ok rest) :
    rest.length + 1 ≤ src.length := by
  rw [skipUnsigned.eq_def] at h
  split at h
  next => exact nomatch h
  next c src =>
    split at h
    · exact nomatch h
    · exact Nat.succ_le_succ ((length_of_skipFraction h).trans (length_dropWhile_isDigit src))

theorem consumes_skipNumber : Consumes 1 skipNumber := by
  intro src x rest h
  have hunsigned {src' : Source}
      (h : (skipUnsigned src').map (fun src => ((), src)) = .ok (x, rest)) :
      rest.length + 1 ≤ src'.length := by
    cases hrest : skipUnsigned src' with
    | error e =>
      rw [hrest] at h
      exact nomatch h
    | ok rest' =>
      rw [hrest] at h
      cases h
      exact length_of_skipUnsigned hrest
  rw [skipNumber.eq_def] at h
  split at h
  next => exact (hunsigned h).trans (Nat.le_succ _)
  next => exact hunsigned h

/-! ### Single values -/

theorem consumes_string : Consumes 1 string := by
  refine consumesAt_next?_bind (consumesAt_throw _ _) fun c src => ?_
  dsimp only
  split
  · exact ConsumesAt.advance_bind (consumes_textTail src) (fun _ => Nat.le_succ 1) c
  · exact consumes_unexpected 1 _ c _

theorem consumes_integer (wanted : String) (convert : Int → Option α) :
    Consumes 0 (integer wanted convert) := by
  refine consumesAt_next?_bind (consumesAt_throw _ _) fun c src => ?_
  dsimp only
  split
  · refine consumes_number.bind (m := 0) (fun x => ?_) _
    cases x with
    | int n =>
      dsimp only
      cases convert n with
      | none => exact consumesAt_throw _
      | some x => exact .pure x
    | float x => exact consumesAt_throw _
  · exact consumes_unexpected 0 wanted c _

theorem consumes_int32 : Consumes 0 int32 :=
  consumes_integer _ _

theorem consumes_uint32 : Consumes 0 uint32 :=
  consumes_integer _ _

/-! ### Values that are passed over -/

theorem consumes_colon : Consumes 0 colon := by
  refine consumesAt_next?_bind (consumesAt_throw _ _) fun c src => ?_
  dsimp only
  split
  · rintro x rest ⟨⟩
    exact Nat.le_succ _
  · exact consumesAt_throw _ _

theorem skipTextTail_eq_ok_iff {src rest : Source} :
    skipTextTail src = .ok ((), rest) ↔ skipText 0 src = .ok rest := by
  rw [skipTextTail]
  cases skipText 0 src with
  | error e => exact iff_of_false nofun nofun
  | ok rest' => simp [Except.map]

theorem consumes_skipTextTail : Consumes 0 skipTextTail := fun _ _ _ h =>
  (Nat.le_succ _).trans (length_of_skipText (skipTextTail_eq_ok_iff.1 h))

/-- Each step takes a character, but for the one behind an opening bracket and the end. -/
theorem consumes_skipStep {state : SkipState} (hopened : ∀ isObject, state ≠ .opened isObject)
    {open_ : List Bool} (hend : state = .done → open_ ≠ []) :
    Consumes 1 (skipStep state open_) := by
  -- What is read behind the character at hand takes nothing more, or leaves less.
  have hadvance {read : Reader (SkipState × List Bool)} (hread : Consumes 0 read)
      (c : Option Char) (src : Source) : ConsumesAt (fun _ => 1) (do advance; read) (c :: src) :=
    (hread src).advance_bind (fun _ => le_rfl) c
  have hword (cs : List Char) (next : SkipState × List Bool) :
      Consumes 0 (do word cs; return next) :=
    (consumes_word cs).bind fun _ => .pure next
  cases state with
  | value =>
    refine consumesAt_next?_bind (consumesAt_throw _ _) fun c src => ?_
    dsimp only
    split_ifs
    · exact hadvance (hword _ _) c src
    · exact hadvance (hword _ _) c src
    · exact hadvance (hword _ _) c src
    · exact consumes_skipNumber.bind (fun _ => .pure _) _
    · exact hadvance (consumes_skipTextTail.bind fun _ => .pure _) c src
    · exact hadvance (.pure _) c src
    · exact hadvance (.pure _) c src
    · exact consumesAt_throw _ _
  | opened isObject => exact absurd rfl (hopened isObject)
  | key =>
    refine consumesAt_next?_bind (consumesAt_throw _ _) fun c src => ?_
    dsimp only
    split
    · exact hadvance (consumes_skipTextTail.bind fun _ =>
        consumes_colon.bind fun _ => .pure _) c src
    · exact consumesAt_throw _ _
  | done =>
    cases open_ with
    | nil => exact absurd rfl (hend rfl)
    | cons isObject outer =>
      refine consumesAt_next?_bind (consumesAt_throw _ _) fun c src => ?_
      dsimp only
      split_ifs
      all_goals first
        | exact hadvance (.pure _) c src
        | exact consumesAt_throw _ _

theorem consumes_skipStep_opened (isObject : Bool) (open_ : List Bool) :
    Consumes 0 (skipStep (.opened isObject) open_) := by
  refine consumesAt_next?_bind (consumesAt_throw _ _) fun c src => ?_
  dsimp only
  by_cases hc : c = some (if isObject then '\x7d' else ']')
  · rw [if_pos hc]
    exact (Consumes.pure (SkipState.done, open_) src).advance_bind (fun _ => Nat.zero_le _) c
  · rw [if_neg hc]
    exact Consumes.pure _ _

theorem consumes_skipSteps (fuel : Nat) (state : SkipState) (open_ : List Bool) :
    Consumes 0 (skipSteps fuel state open_) := by
  fun_induction skipSteps fuel state open_ with
  | case1 => exact .pure ()
  | case2 => exact .pure ()
  | case3 fuel state open_ hend ih =>
    have hstep : Consumes 0 (skipStep state open_) := by
      by_cases hopened : ∃ isObject, state = .opened isObject
      · obtain ⟨isObject, rfl⟩ := hopened
        exact consumes_skipStep_opened isObject open_
      · exact (consumes_skipStep (not_exists.1 hopened) hend).mono (Nat.zero_le 1)
    exact hstep.bind fun next => ih next.1 next.2

theorem consumes_skipValue : Consumes 1 skipValue := by
  intro src x rest h
  have hstep : Consumes 1 (skipStep .value []) :=
    consumes_skipStep (by exact nofun) (by exact nofun)
  rw [skipValue, get_bind, skipSteps.eq_3 _ _ _ (by exact nofun)] at h
  exact (hstep.bind (m := 0) fun next => consumes_skipSteps _ next.1 next.2) src h

end Matchday.Json
