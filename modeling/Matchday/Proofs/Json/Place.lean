import Matchday.Proofs.Json.ToTheEnd

/-!
# Places in values, and the texts that lead to them

A text in front of a value leads a reader to it: the reader of the whole becomes the reader of the
value and of what follows it.  What it gives then has the value in one place, and with another value
it would be the same everywhere else.  Texts that lead from one reader to the next are put one after
another; here are those that lead into an array.

## Main definitions

* `Place`: what stands at a place of a value, and how it is changed.
* `Leads`: a text leads a reader to another one, which reads what stands at a place.
* `OpensList`: the texts of an array in front of one of its items.

## Main results

* `Leads.comp`: one text after another.
* `OpensList.leads`: an array is read past some items to the next one.
-/

namespace Matchday.Json

variable {α β γ σ : Type}

/-! ### Places in values -/

/-- A place in the values of a type: what stands there, if a value has the place, and how it is
changed. -/
structure Place (α β : Type) where
  get? : α → Option β
  modify : (β → β) → α → α

namespace Place

/-- Puts something else in a place. -/
def set (p : Place α β) (y : β) : α → α :=
  p.modify fun _ => y

/-- A place in what stands at a place. -/
def comp (p : Place α β) (q : Place β γ) : Place α γ where
  get? x := (p.get? x).bind q.get?
  modify g := p.modify (q.modify g)

/-- A field of a record. -/
def field (get : α → β) (modify : (β → β) → α → α) : Place α β where
  get? x := some (get x)
  modify

/-- An item of a list. -/
def item (i : Nat) : Place (List α) α where
  get? xs := xs[i]?
  modify g xs := xs.modify i g

/-- What is read behind a value ends with the value in its place, and with another value there if
another one was read. -/
structure Carries (p : Place α β) (next : β → Reader α) : Prop where
  get?_eq : ∀ ⦃y src x rest⦄, next y src = .ok (x, rest) → p.get? x = some y
  map_modify : ∀ (g : β → β) (y : β), next (g y) = p.modify g <$> next y

theorem Carries.comp {p : Place α β} {q : Place β γ} {next : β → Reader α} {next' : γ → Reader β}
    (hp : p.Carries next) (hq : q.Carries next') :
    (p.comp q).Carries fun z => next' z >>= next where
  get?_eq z src x rest h := by
    obtain ⟨y, src', hy, hx⟩ := bind_apply_eq_ok_iff.1 h
    change (p.get? x).bind q.get? = some z
    rw [hp.get?_eq hx]
    exact hq.get?_eq hy
  map_modify g z := by
    rw [hq.map_modify, bind_map_left, map_bind]
    exact congrArg _ (funext fun y => hp.map_modify (q.modify g) y)

/-- With something else read at its place a value is the same everywhere else. -/
theorem Carries.next_eq_ok {p : Place α β} {next : β → Reader α} (h : p.Carries next) {y : β}
    {src rest : Source} {x : α} (hy : next y src = .ok (x, rest)) (z : β) :
    next z src = .ok (p.set z x, rest) := by
  rw [h.map_modify (fun _ => z) y]
  change (next y >>= fun x => pure (p.set z x)) src = _
  rw [bind_apply_of_eq_ok hy]
  rfl

end Place

/-! ### Texts that lead to a place -/

/-- A text leads one reader to another one: it reads the value that stands at a place of its own
value, and whatever value that is, the rest is read in the same way. -/
structure Leads (read : Reader α) (inner : Reader β) (p : Place α β) (u : List Char) : Prop where
  starts : ∀ ⦃src : Source⦄, src.StartsValue → Source.StartsValue (u.map some ++ src)
  exists_next : ∃ next, p.Carries next ∧
    ∀ ⦃src : Source⦄, src.StartsValue → read (u.map some ++ src) = (inner >>= next) src

theorem Leads.comp {read : Reader α} {mid : Reader β} {inner : Reader γ} {p : Place α β}
    {q : Place β γ} {u v : List Char} (hu : Leads read mid p u) (hv : Leads mid inner q v) :
    Leads read inner (p.comp q) (u ++ v) where
  starts src hsrc := by
    rw [List.map_append, List.append_assoc]
    exact hu.starts (hv.starts hsrc)
  exists_next := by
    obtain ⟨next, hnext, hread⟩ := hu.exists_next
    obtain ⟨next', hnext', hread'⟩ := hv.exists_next
    refine ⟨_, hnext.comp hnext', fun src hsrc => ?_⟩
    rw [List.map_append, List.append_assoc, hread (hv.starts hsrc),
      ← bind_assoc]
    exact bind_apply_congr_left (hread' hsrc) next

/-- A text of a value, which is read whatever follows that ends a value. -/
def IsTextOf (read : Reader α) (v : List Char) (x : α) : Prop :=
  ∀ ⦃rest : Source⦄, rest.EndsValue → read (v.map some ++ rest) = .ok (x, rest)

/-! ### Arrays -/

section Arrays

variable {item : Reader α} {b b' : List Char} {src : Source}

theorem map_nextItem (f : α → β) (first : Bool) (item : Reader α) :
    Option.map f <$> nextItem first item = nextItem first (f <$> item) := by
  simp only [nextItem, map_bind]
  refine congrArg _ (funext fun c => ?_)
  cases c with
  | none => rfl
  | some c =>
    dsimp only
    split_ifs
    · rfl
    · simp only [map_bind, map_pure, bind_map_left, Option.map_some]
    · rfl
    · simp only [map_bind]
      refine congrArg _ (funext fun _ => congrArg _ (funext fun d => ?_))
      cases d with
      | none => rfl
      | some d =>
        dsimp only
        split_ifs
        · rfl
        · simp only [map_bind, map_pure, bind_map_left, Option.map_some]

/-- The next item of an array is read somewhere in it. -/
theorem exists_of_nextItem_eq_some {first : Bool} {rest : Source} {x : α}
    (h : nextItem first item src = .ok (some x, rest)) : ∃ src', item src' = .ok (x, rest) := by
  have hread {src : Source}
      (h : (do return some (← item) : Reader (Option α)) src = .ok (some x, rest)) :
      ∃ src', item src' = .ok (x, rest) := by
    obtain ⟨y, src', hy, h⟩ := bind_apply_eq_ok_iff.1 h
    cases h
    exact ⟨src, hy⟩
  obtain ⟨c, src₁, -, h⟩ := bind_apply_eq_ok_iff.1 h
  cases c with
  | none => exact nomatch h
  | some c =>
    dsimp only at h
    split_ifs at h
    · exact nomatch h
    · exact hread h
    · exact nomatch h
    · obtain ⟨_, src₂, -, h⟩ := bind_apply_eq_ok_iff.1 h
      obtain ⟨d, src₃, -, h⟩ := bind_apply_eq_ok_iff.1 h
      cases d with
      | none => exact nomatch h
      | some d =>
        dsimp only at h
        split_ifs at h
        · exact nomatch h
        · exact hread h

/-- A text that leads into an array, past some items. -/
inductive OpensList (item : Reader α) : List α → List Char → Prop
  | first {b : List Char} (hb : IsBlank b) : OpensList item [] ('[' :: b)
  | next {xs : List α} {x : α} {u v b b' : List Char} (hu : OpensList item xs u)
    (hstart : Source.StartsValue (v.map some)) (hv : IsTextOf item v x) (hb : IsBlank b)
    (hb' : IsBlank b') : OpensList item (xs ++ [x]) (u ++ v ++ b ++ ',' :: b')

theorem OpensList.exists_eq_cons {xs : List α} {u : List Char} (hu : OpensList item xs u) :
    ∃ u', u = '[' :: u' := by
  induction hu with
  | @first b hb => exact ⟨b, rfl⟩
  | next _ _ _ _ _ ih =>
    obtain ⟨u', rfl⟩ := ih
    simp

/-- The rest of an array behind some items. -/
def afterItems (item : Reader α) (xs : List α) : Reader (List α) := do
  let ys ← allItems item false
  endArray
  return xs ++ ys

/-- Behind a comma there is one more item. -/
theorem afterItems_comma (h : Consumes 1 item) (xs : List α) (hb : IsBlank b) (hb' : IsBlank b')
    (hsrc : src.StartsValue) :
    afterItems item xs ((b ++ [',']).map some ++ (b'.map some ++ src)) =
      (item >>= fun x => afterItems item (xs ++ [x])) src := by
  rw [afterItems, allItems_eq h, bind_assoc]
  refine (bind_apply_congr_left (nextItem_of_startsValue item (.comma hb) hb' hsrc) _).trans ?_
  simp only [bind_assoc, pure_bind, afterItems, List.append_assoc, List.singleton_append]

theorem OpensList.list_eq (h : Consumes 1 item) {xs : List α} {u : List Char}
    (hu : OpensList item xs u) {src : Source} (hsrc : src.StartsValue) :
    list item (u.map some ++ src) = (item >>= fun x => afterItems item (xs ++ [x])) src := by
  induction hu generalizing src with
  | @first b hb =>
    have hitems : (do let xs ← allItems item true; endArray; return xs : Reader (List α))
        (b.map some ++ src) = (item >>= fun x => afterItems item [x]) src := by
      rw [allItems_eq h, bind_assoc]
      refine (bind_apply_congr_left (nextItem_of_startsValue item .opening hb hsrc) _).trans ?_
      simp only [bind_assoc, pure_bind, afterItems, List.singleton_append]
    refine (next?_bind isBlank_nil (rfl : isSpace (some '[') = false) _ _).trans ?_
    dsimp only
    rw [if_pos rfl, advance_bind, arrayTail, get_bind]
    exact hitems
  | @next xs x u v b b' hu hstart hv hb hb' ih =>
    have htext : (u ++ v ++ b ++ ',' :: b').map some ++ src =
        u.map some ++ (v.map some ++ ((b ++ [',']).map some ++ (b'.map some ++ src))) := by simp
    rw [htext, ih (hstart.append _), bind_apply_of_eq_ok (hv (Source.endsValue_comma hb _)),
      afterItems_comma h _ hb hb' hsrc]

theorem modify_append_cons (xs : List α) (x : α) (ys : List α) (g : α → α) :
    (xs ++ x :: ys).modify xs.length g = xs ++ g x :: ys := by
  induction xs with
  | nil => rfl
  | cons y xs ih => exact congrArg (y :: ·) ih

theorem carries_afterItems (xs : List α) :
    (Place.item xs.length).Carries fun x => afterItems item (xs ++ [x]) where
  get?_eq x src zs rest h := by
    obtain ⟨ys, src', -, h⟩ := bind_apply_eq_ok_iff.1 h
    obtain ⟨_, src'', -, h⟩ := bind_apply_eq_ok_iff.1 h
    cases h
    change (xs ++ [x] ++ ys)[xs.length]? = some x
    simp
  map_modify g x := by
    simp only [afterItems, map_bind, map_pure]
    refine congrArg _ (funext fun ys => congrArg _ (funext fun _ => congrArg _ ?_))
    simp only [List.append_assoc, List.singleton_append]
    exact (modify_append_cons xs x ys g).symm

/-- **An array is read past some items to the next one.** -/
theorem OpensList.leads (h : Consumes 1 item) {xs : List α} {u : List Char}
    (hu : OpensList item xs u) : Leads (list item) item (.item xs.length) u where
  starts src _ := by
    obtain ⟨u, rfl⟩ := hu.exists_eq_cons
    exact ⟨'[', _, rfl, rfl, by decide⟩
  exists_next := ⟨_, carries_afterItems xs, fun _ hsrc => hu.list_eq h hsrc⟩

end Arrays

end Matchday.Json
