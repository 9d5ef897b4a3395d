import Matchday.Proofs.Json.Progress

/-!
# Items and members to the end

The items of an array and the members of an object are fewer than the characters of their text, so
the fuel that is handed to their readers does not run out.  With it they are the next item or member
and all that follow, however long the text is.

## Main definitions

* `allItems`, `Record.allMembers`: the items of an array and the members of an object to its end.

## Main results

* `items_eq_items`, `Record.fillMembers_eq_fillMembers`: more fuel changes nothing.
* `allItems_eq`, `Record.allMembers_eq`: the next item or member, then all that follow.
* `consumes_list`, `Record.consumes_read`: arrays and records take at least their opening mark.
-/

namespace Matchday.Json

variable {α β σ : Type}

/-! ### Arrays -/

section Arrays

variable {item : Reader α}

/-- What the next item of an array takes, if there is one, is taken. -/
theorem consumesAt_nextItem {n : Nat} (h : Consumes n item) (first : Bool) :
    ∀ src, ConsumesAt (n * ·.toList.length) (nextItem first item) src := by
  have hitem (src : Source) :
      ConsumesAt (n * ·.toList.length) (do return some (← item)) src := by
    intro y rest hread
    obtain ⟨x, src', hx, hread⟩ := bind_apply_eq_ok_iff.1 hread
    cases hread
    change rest.length + n * 1 ≤ src.length
    rw [Nat.mul_one]
    exact h src hx
  refine consumesAt_next?_bind (consumesAt_throw _ _) fun c src => ?_
  dsimp only
  split
  · exact consumesAt_pure (x := none) rfl _
  · split
    · exact hitem _
    · split
      · exact consumesAt_throw _ _
      · refine ConsumesAt.advance_bind (consumesAt_next?_bind (consumesAt_throw _ _)
          (fun d src => ?_) src) (fun _ => Nat.le_succ _) c
        dsimp only
        split
        · exact consumesAt_throw _ _
        · exact hitem _

theorem consumes_nextItem (h : Consumes 0 item) (first : Bool) : Consumes 0 (nextItem first item) :=
  fun src _ _ hread => (Nat.le_add_right _ _).trans (consumesAt_nextItem h first src hread)

theorem consumes_items (h : Consumes 1 item) (fuel : Nat) (first : Bool) :
    Consumes 0 (items item fuel first) := by
  induction fuel generalizing first with
  | zero => exact .pure []
  | succ fuel ih =>
    refine (consumes_nextItem (h.mono (Nat.zero_le _)) first).bind (m := 0) fun x => ?_
    cases x with
    | none => exact .pure []
    | some x => exact (ih false).bind fun xs => .pure (x :: xs)

/-- With more fuel than there are characters the amount of fuel does not matter. -/
theorem items_eq_items (h : Consumes 1 item) {fuel fuel' : Nat} (first : Bool) {src : Source}
    (hfuel : src.length < fuel) (hfuel' : src.length < fuel') :
    items item fuel first src = items item fuel' first src := by
  induction fuel generalizing fuel' first src with
  | zero => exact absurd hfuel (Nat.not_lt_zero _)
  | succ fuel ih =>
    obtain ⟨fuel', rfl⟩ := Nat.exists_eq_succ_of_ne_zero (Nat.ne_zero_of_lt hfuel')
    rw [items, items]
    refine bind_apply_congr fun x src' hnext => ?_
    cases x with
    | none => rfl
    | some x =>
      have hless : src'.length + 1 ≤ src.length := consumesAt_nextItem h first src hnext
      exact bind_apply_congr_left (ih false (by omega) (by omega)) _

theorem consumes_endArray : Consumes 0 endArray := by
  refine consumesAt_next?_bind (consumesAt_throw _ _) fun c src => ?_
  dsimp only
  split
  · rintro x rest ⟨⟩
    exact Nat.le_succ _
  · split
    · refine ConsumesAt.advance_bind (n := fun _ => 0)
        (consumesAt_next?_bind ?_ (fun d src => ?_) src) (fun _ => Nat.zero_le _) c
      · exact consumesAt_throw _ _
      · split <;> exact consumesAt_throw _ _
    · exact consumesAt_throw _ _

theorem consumes_list (h : Consumes 1 item) : Consumes 1 (list item) := by
  refine consumesAt_next?_bind (consumesAt_throw _ _) fun c src => ?_
  dsimp only
  split
  · refine ConsumesAt.advance_bind ?_ (fun _ => Nat.le_refl (0 + 1)) c
    rw [arrayTail]
    intro xs rest hread
    rw [get_bind] at hread
    refine ((consumes_items h _ true).bind (m := 0) fun xs => ?_) src hread
    exact consumes_endArray.bind fun _ => .pure xs
  · exact consumes_unexpected 1 _ c _

/-- The items of an array to its end. -/
def allItems (item : Reader α) (first : Bool) : Reader (List α) :=
  fun src => items item (src.length + 1) first src

/-- **The items of an array are the next one and all that follow it.** -/
theorem allItems_eq (h : Consumes 1 item) (first : Bool) :
    allItems item first = do
      match ← nextItem first item with
      | none => return []
      | some x => return x :: (← allItems item false) := by
  funext src
  rw [allItems, items]
  refine bind_apply_congr fun x src' hnext => ?_
  cases x with
  | none => rfl
  | some x =>
    have hless : src'.length + 1 ≤ src.length := consumesAt_nextItem h first src hnext
    exact bind_apply_congr_left (items_eq_items h false (by omega) (Nat.lt_succ_self _)) _

end Arrays

/-! ### Records -/

/-- Where the next key of an object is read, less is left than there was. -/
theorem consumesAt_nextKey (first : Bool) :
    ∀ src, ConsumesAt (·.toList.length) (nextKey first) src := by
  have hkey (c : Option Char) (src : Source) : ConsumesAt (·.toList.length)
      (do advance; return some (← textTail)) (c :: src) := by
    have htext : Consumes 0 (do return some (← textTail)) :=
      (consumes_textTail.mono (Nat.zero_le 1)).bind fun s => .pure (some s)
    exact (htext src).advance_bind (fun x => by cases x <;> simp) c
  refine consumesAt_next?_bind (consumesAt_throw _ _) fun c src => ?_
  dsimp only
  split
  · exact consumesAt_pure (x := none) rfl _
  · split
    · split
      · exact hkey c src
      · exact consumesAt_throw _ _
    · split
      · exact consumesAt_throw _ _
      · refine ConsumesAt.advance_bind (consumesAt_next?_bind (consumesAt_throw _ _)
          (fun d src => ?_) src) (fun _ => Nat.le_succ _) c
        dsimp only
        split
        · exact hkey d src
        · split <;> exact consumesAt_throw _ _

namespace Record

variable {r : Record σ α}

/-- The readers of the fields of a record leave no more than there was. -/
def FieldsConsume (r : Record σ α) : Prop :=
  ∀ field ∈ r.fields, ∀ draft, Consumes 0 (field.fill draft)

theorem consumes_fillMember (h : r.FieldsConsume) (key : String) (draft : σ) :
    Consumes 0 (r.fillMember key draft) := by
  rw [fillMember]
  split
  next field hfield =>
    have hfill := h field (List.mem_of_find?_eq_some hfield) draft
    have hnew : Consumes 0 (do colon; field.fill draft) := consumes_colon.bind fun _ => hfill
    split
    · exact fun src => consumesAt_throw _ _
    · exact hnew
  next => exact consumes_colon.bind fun _ =>
    (consumes_skipValue.mono (Nat.zero_le 1)).bind fun _ => .pure draft

theorem consumes_fillMembers (h : r.FieldsConsume) (fuel : Nat) (first : Bool) (draft : σ) :
    Consumes 0 (r.fillMembers fuel first draft) := by
  induction fuel generalizing first draft with
  | zero => exact .pure draft
  | succ fuel ih =>
    have hkey : Consumes 0 (nextKey first) := fun src _ _ hread =>
      (Nat.le_add_right _ _).trans (consumesAt_nextKey first src hread)
    refine hkey.bind (m := 0) fun key => ?_
    cases key with
    | none => exact .pure draft
    | some key => exact (consumes_fillMember h key draft).bind fun draft => ih false draft

theorem consumes_fillItems (h : r.FieldsConsume) (i : Nat) {fields : List (Field σ)}
    (hfields : fields ⊆ r.fields) (draft : σ) : Consumes 0 (r.fillItems i fields draft) := by
  induction fields generalizing i draft with
  | nil => exact .pure draft
  | cons field fields ih =>
    rw [List.cons_subset] at hfields
    refine (consumes_nextItem (h field hfields.1 draft) (i == 0)).bind (m := 0) fun draft' => ?_
    cases draft' with
    | some draft' => exact ih (i + 1) hfields.2 draft'
    | none =>
      dsimp only
      split
      · exact ih (i + 1) hfields.2 draft
      · exact consumesAt_throw _

theorem consumes_liftM (x : Except ReadError α) : Consumes 0 (liftM x : Reader α) := by
  intro src y rest hread
  cases x with
  | error e => exact nomatch hread
  | ok x =>
    cases hread
    exact le_rfl

/-- A record takes at least its opening brace or bracket. -/
theorem consumes_read (h : r.FieldsConsume) : Consumes 1 r.read := by
  refine consumesAt_next?_bind (consumesAt_throw _ _) fun c src => ?_
  dsimp only
  split
  · refine ConsumesAt.advance_bind (n := fun _ => 0) ?_ (fun _ => Nat.le_refl _) c
    intro x rest hread
    rw [get_bind] at hread
    refine ((consumes_fillMembers h _ true _).bind (m := 0) fun draft => ?_) src hread
    exact (consumes_liftM _).bind fun x => consumes_advance.bind fun _ => .pure x
  · split
    · refine ConsumesAt.advance_bind (n := fun _ => 0) ?_ (fun _ => Nat.le_refl _) c
      refine ((consumes_fillItems h 0 (List.Subset.refl _) _).bind (m := 0) fun draft => ?_) src
      exact (consumes_liftM _).bind fun x => consumes_endArray.bind fun _ => .pure x
    · exact consumes_unexpected 1 _ c _

/-- The members of an object to its end. -/
def allMembers (r : Record σ α) (first : Bool) (draft : σ) : Reader σ :=
  fun src => r.fillMembers (src.length + 1) first draft src

theorem fillMembers_eq_fillMembers (h : r.FieldsConsume) {fuel fuel' : Nat} (first : Bool)
    (draft : σ) {src : Source} (hfuel : src.length < fuel) (hfuel' : src.length < fuel') :
    r.fillMembers fuel first draft src = r.fillMembers fuel' first draft src := by
  induction fuel generalizing fuel' first draft src with
  | zero => exact absurd hfuel (Nat.not_lt_zero _)
  | succ fuel ih =>
    obtain ⟨fuel', rfl⟩ := Nat.exists_eq_succ_of_ne_zero (Nat.ne_zero_of_lt hfuel')
    rw [fillMembers, fillMembers]
    refine bind_apply_congr fun key src' hkey => ?_
    cases key with
    | none => rfl
    | some key =>
      have hless : src'.length + 1 ≤ src.length := consumesAt_nextKey first src hkey
      refine bind_apply_congr fun draft' src'' hmember => ?_
      have hrest : src''.length ≤ src'.length := consumes_fillMember h key draft src' hmember
      exact ih false draft' (by omega) (by omega)

/-- **The members of an object are the next one and all that follow it.** -/
theorem allMembers_eq (h : r.FieldsConsume) (first : Bool) (draft : σ) :
    r.allMembers first draft = (do
      match ← nextKey first with
      | none => return draft
      | some key => r.allMembers false (← r.fillMember key draft)) := by
  funext src
  rw [allMembers, fillMembers]
  refine bind_apply_congr fun key src' hkey => ?_
  cases key with
  | none => rfl
  | some key =>
    have hless : src'.length + 1 ≤ src.length := consumesAt_nextKey first src hkey
    refine bind_apply_congr fun draft' src'' hmember => ?_
    have hrest : src''.length ≤ src'.length := consumes_fillMember h key draft src' hmember
    exact fillMembers_eq_fillMembers h false draft' (by omega) (Nat.lt_succ_self _)

end Record

theorem Consumes.fill {n : Nat} {read : Reader β} (h : Consumes n read) (name : String)
    (get : σ → Option β) (set : σ → β → σ) (mayEnd : Bool) (draft : σ) :
    Consumes 0 ((Field.of name get set read mayEnd).fill draft) :=
  (h.mono (Nat.zero_le n)).bind fun x => .pure (set draft x)

end Matchday.Json
