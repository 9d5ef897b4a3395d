import Matchday.Json.Record
import Matchday.Proofs.Json.Atom
import Matchday.Proofs.Json.Spelling

/-!
# Values read from their texts

A reader for a type reads a JSON value as an element of the type when it does so in every text of
the value, with blanks in front and anything behind that ends a value.  Readers of arrays and
records inherit this from the readers of items and fields.

## Main definitions

* `Reads`: a value is read as an element of a type.
* `Source.StartsValue`, `Separates`: where the items of an array stand, and what is between them.
* `IsKeyText`: the texts of a key.
* `Record.Fills`: the members of an object lead from one draft of a record to another.

## Main results

* `reads_string`, `reads_int32`, `reads_uint32`, `reads_list`: values of single types.
* `Record.reads`: objects read as records.
* `Record.read_eq_map`: a record is read as its draft is read.
* `Reads.document_eq`: whole texts.
-/

namespace Matchday.Json

variable {α β σ : Type}

/-- A value is read as `x`, in each of its texts. -/
def Reads (read : Reader α) (j : Json) (x : α) : Prop :=
  ∀ ⦃cs : List Char⦄, Spells j cs → ∀ ⦃b : List Char⦄, IsBlank b → ∀ ⦃rest : Source⦄,
    rest.EndsValue → read (b.map some ++ (cs.map some ++ rest)) = .ok (x, rest)

/-! ### Single steps -/

theorem bind_apply_of_eq_ok {x : Reader α} {f : α → Reader β} {src src' : Source} {a : α}
    (h : x src = .ok (a, src')) : (x >>= f) src = f a src' := by
  change (x src >>= fun read => f read.1 read.2) = _
  rw [h]
  rfl

theorem bind_apply_of_eq_error {x : Reader α} {f : α → Reader β} {src : Source} {e : ReadError}
    (h : x src = .error e) : (x >>= f) src = .error e := by
  change (x src >>= fun read => f read.1 read.2) = _
  rw [h]
  rfl

/-- The next character past blanks stays where it is. -/
theorem next?_of_isBlank {b : List Char} (hb : IsBlank b) {c : Char}
    (hc : isSpace (some c) = false) (src : Source) :
    next? (b.map some ++ some c :: src) = .ok (some (some c), some c :: src) := by
  have hdrop : (b.map some ++ some c :: src).dropWhile isSpace = some c :: src := by
    rw [List.dropWhile_append_of_pos (List.forall_mem_map.2 hb), List.dropWhile_cons, hc,
      if_neg Bool.false_ne_true]
  change Except.ok (((b.map some ++ some c :: src).dropWhile isSpace).head?,
    (b.map some ++ some c :: src).dropWhile isSpace) = _
  rw [hdrop]
  rfl

/-- What comes after the next character is known, past blanks. -/
theorem next?_bind {b : List Char} (hb : IsBlank b) {c : Char} (hc : isSpace (some c) = false)
    (f : Option (Option Char) → Reader α) (src : Source) :
    (next? >>= f) (b.map some ++ some c :: src) = f (some (some c)) (some c :: src) :=
  bind_apply_of_eq_ok (next?_of_isBlank hb hc src)

theorem advance_bind (f : Unit → Reader α) (c : Option Char) (src : Source) :
    (advance >>= f) (c :: src) = f () src :=
  rfl

theorem get_bind (f : Source → Reader α) (src : Source) :
    ((get : Reader Source) >>= f) src = f src src :=
  rfl

/-- Blanks or a mark end a value, and so do blanks and a mark. -/
theorem Source.endsValue_append {b : List Char} (hb : IsBlank b) {src : Source}
    (hsrc : src.EndsValue) : EndsValue (b.map some ++ src) := by
  cases b with
  | nil => exact hsrc
  | cons c b =>
    have hc : isSpace (some c) = true := hb c List.mem_cons_self
    refine endsValue_cons ?_ _
    simp only [isSpace, Bool.or_eq_true, beq_iff_eq, Option.some.injEq] at hc
    rcases hc with ((rfl | rfl) | rfl) | rfl <;> decide

/-- A value stands at the start of a text, and not the end of an array. -/
def Source.StartsValue (src : Source) : Prop :=
  ∃ c rest, src = some c :: rest ∧ isSpace (some c) = false ∧ c ≠ ']'

namespace Source.StartsValue

variable {src : Source}

theorem append (hsrc : src.StartsValue) (rest : Source) : StartsValue (src ++ rest) := by
  obtain ⟨c, src, rfl, hspace, hc⟩ := hsrc
  exact ⟨c, src ++ rest, rfl, hspace, hc⟩

theorem exists_head? (hsrc : src.StartsValue) : ∃ c, src.head? = some c ∧ c ≠ some ']' := by
  obtain ⟨c, rest, rfl, -, hc⟩ := hsrc
  exact ⟨some c, rfl, fun h => hc (Option.some.inj h)⟩

theorem next?_bind (hsrc : src.StartsValue) {b : List Char} (hb : IsBlank b)
    (f : Option (Option Char) → Reader α) :
    (next? >>= f) (b.map some ++ src) = f src.head? src := by
  obtain ⟨c, rest, rfl, hc, -⟩ := hsrc
  exact Json.next?_bind hb hc f rest

end Source.StartsValue

theorem Source.endsValue_comma {b : List Char} (hb : IsBlank b) (src : Source) :
    EndsValue ((b ++ [',']).map some ++ src) := by
  rw [List.map_append, List.append_assoc]
  exact endsValue_append hb (endsValue_cons (by decide) src)

/-! ### Texts and integers -/

theorem reads_string (s : String) : Reads string (.text s) s := by
  rintro _ ⟨⟩ b hb rest -
  exact (next?_bind hb rfl _ _).trans (textTail_quoted s rest)

/-- The first character of an integer. -/
theorem exists_repr_eq_cons (n : Int) : ∃ c cs, n.repr.toList = c :: cs ∧
    isSpace (some c) = false ∧ (some c = some '-' || isDigit (some c)) = true := by
  cases n with
  | ofNat m =>
    obtain ⟨d, ds, hcons, hdigit⟩ := exists_toDigits_eq_cons m
    refine ⟨d, ds, Nat.toList_repr.trans hcons, ?_, by rw [isDigit, hdigit, Bool.or_true]⟩
    simp only [isSpace, Bool.or_eq_false_iff, beq_eq_false_iff_ne, ne_eq, Option.some.injEq]
    refine ⟨⟨⟨?_, ?_⟩, ?_⟩, ?_⟩ <;> rintro rfl <;> exact absurd hdigit (by decide)
  | negSucc m => exact ⟨'-', _, toList_repr_negSucc m, rfl, rfl⟩

/-- What a reader of integers makes of a number. -/
def ofNumber (wanted : String) (convert : Int → Option α) : Number → Reader α
  | .int n =>
    match convert n with
    | some x => return x
    | none => throw (.invalidInteger n wanted)
  | .float x => throw (.invalidType (.float x) wanted)

/-- Where an integer stands, a number is read. -/
theorem integer_repr (wanted : String) (convert : Int → Option α) (n : Int) {b : List Char}
    (hb : IsBlank b) (rest : Source) :
    integer wanted convert (b.map some ++ (n.repr.toList.map some ++ rest)) =
      (number >>= ofNumber wanted convert) (n.repr.toList.map some ++ rest) := by
  obtain ⟨c, cs, hcons, hspace, hfirst⟩ := exists_repr_eq_cons n
  rw [hcons, List.map_cons, List.cons_append, integer, next?_bind hb hspace]
  dsimp only
  rw [if_pos hfirst]
  refine congrFun (congrArg _ (funext fun x => ?_)) _
  cases x <;> rfl

/-- An integer of 64 bits that converts to a type is read. -/
theorem reads_integer {wanted : String} {convert : Int → Option α} {n : Int} {x : α}
    (hlow : -9223372036854775808 ≤ n) (hhigh : n < 18446744073709551616)
    (hconvert : convert n = some x) : Reads (integer wanted convert) (.int n) x := by
  rintro _ ⟨⟩ b hb rest hrest
  rw [integer_repr wanted convert n hb, bind_apply_of_eq_ok (number_repr hlow hhigh hrest),
    ofNumber, hconvert]
  rfl

theorem reads_int32 (x : Int32) : Reads int32 (.int x.toInt) x := by
  have hlow := x.le_toInt
  have hhigh := x.toInt_lt
  refine reads_integer (by omega) (by omega) ?_
  rw [toInt32?, if_pos ⟨by omega, by omega⟩, Int32.ofInt_toInt]

theorem reads_uint32 (x : UInt32) : Reads uint32 (.int x.toNat) x := by
  have hhigh := x.toNat_lt
  refine reads_integer (by omega) (by omega) ?_
  rw [toUInt32?, if_pos ⟨by omega, by omega⟩, Int.toNat_natCast, UInt32.ofNat_toNat]

/-! ### Arrays -/

/-- What stands between the opening mark or an item and the next item. -/
inductive Separates : Bool → List Char → Prop
  | opening : Separates true []
  | comma {b : List Char} (hb : IsBlank b) : Separates false (b ++ [','])

/-- The text of an object. -/
theorem Spells.exists_eq_cons {ms : List (String × Json)} {cs : List Char}
    (h : Spells (.object ms) cs) : ∃ cs', cs = '\x7b' :: cs' := by
  cases h
  exact ⟨_, rfl⟩

theorem nextItem_end {b : List Char} (hb : IsBlank b) (first : Bool) (item : Reader α)
    (rest : Source) :
    nextItem first item (b.map some ++ some ']' :: rest) = .ok (none, some ']' :: rest) :=
  next?_bind hb rfl _ _

/-- An item, which is read from where it starts. -/
theorem nextItem_of_startsValue (item : Reader α) {first : Bool} {sep b : List Char}
    (hsep : Separates first sep) (hb : IsBlank b) {src : Source} (hsrc : src.StartsValue) :
    nextItem first item (sep.map some ++ (b.map some ++ src)) =
      (do return some (← item) : Reader (Option α)) src := by
  obtain ⟨c, hhead, hc⟩ := hsrc.exists_head?
  cases hsep with
  | opening =>
    rw [List.map_nil, List.nil_append, nextItem, hsrc.next?_bind hb, hhead]
    dsimp only
    rw [if_neg hc, if_pos rfl]
  | comma hb' =>
    rw [List.map_append, List.append_assoc, List.map_singleton, List.singleton_append, nextItem,
      next?_bind hb' rfl]
    dsimp only
    rw [if_neg (by decide), if_neg Bool.false_ne_true, if_neg (by decide), advance_bind,
      hsrc.next?_bind hb, hhead]
    dsimp only
    rw [if_neg hc]

/-- An item that is an object. -/
theorem nextItem_object {item : Reader α} {ms : List (String × Json)} {x : α}
    (hx : Reads item (.object ms) x) {first : Bool} {sep b cs : List Char}
    (hsep : Separates first sep) (hb : IsBlank b) (hcs : Spells (.object ms) cs) {rest : Source}
    (hrest : rest.EndsValue) :
    nextItem first item (sep.map some ++ (b.map some ++ (cs.map some ++ rest))) =
      .ok (some x, rest) := by
  obtain ⟨cs, rfl⟩ := hcs.exists_eq_cons
  have hitem := hx hcs isBlank_nil hrest
  rw [List.map_nil, List.nil_append] at hitem
  have hstart : Source.StartsValue (('\x7b' :: cs).map some ++ rest) :=
    ⟨'\x7b', cs.map some ++ rest, rfl, rfl, by decide⟩
  exact (nextItem_of_startsValue item hsep hb hstart).trans (bind_apply_of_eq_ok hitem)

theorem items_of_end {item : Reader α} {fuel : Nat} (hfuel : 0 < fuel) {first : Bool}
    {src src' : Source} (hend : nextItem first item src = .ok (none, src')) :
    items item fuel first src = .ok ([], src') := by
  obtain ⟨fuel, rfl⟩ := Nat.exists_eq_succ_of_ne_zero hfuel.ne'
  rw [items, bind_apply_of_eq_ok hend]
  rfl

theorem items_of_next {item : Reader α} {fuel : Nat} {first : Bool} {x : α} {xs : List α}
    {src src' src'' : Source} (hnext : nextItem first item src = .ok (some x, src'))
    (hitems : items item fuel false src' = .ok (xs, src'')) :
    items item (fuel + 1) first src = .ok (x :: xs, src'') := by
  rw [items, bind_apply_of_eq_ok hnext]
  dsimp only
  rw [bind_apply_of_eq_ok hitems]
  rfl

/-- The items of an array that has some. -/
theorem items_of_listed {item : Reader α} {js : List Json} {cs : List Char}
    (hcs : Listed Spells js cs) (hne : js ≠ []) {xs : List α}
    (hxs : List.Forall₂ (Reads item) js xs) (hobjects : ∀ j ∈ js, ∃ ms, j = .object ms)
    {fuel : Nat} (hfuel : js.length < fuel) {first : Bool} {sep : List Char}
    (hsep : Separates first sep) (rest : Source) :
    items item fuel first (sep.map some ++ (cs.map some ++ some ']' :: rest)) =
      .ok (xs, some ']' :: rest) := by
  have hclose : Source.EndsValue (some ']' :: rest) := Source.endsValue_cons (by decide) rest
  -- The blanks behind an item are left over when it is read, and stand before the next comma.
  induction hcs generalizing xs fuel first sep with
  | nil => exact absurd rfl hne
  | @single b v b' j hb hj hb' =>
    cases hxs with | cons hx hnil
    cases hnil
    obtain ⟨ms, rfl⟩ := hobjects j List.mem_cons_self
    obtain ⟨fuel, rfl⟩ := Nat.exists_eq_succ_of_ne_zero (Nat.ne_zero_of_lt hfuel)
    have hnext := nextItem_object hx hsep hb hj (Source.endsValue_append hb' hclose)
    simp only [List.map_append, List.append_assoc]
    exact items_of_next hnext (items_of_end (Nat.lt_of_succ_lt_succ hfuel) (nextItem_end hb' ..))
  | @cons b v b' cs j j' js hb hj hb' hjs ih =>
    cases hxs with | cons hx hxs
    obtain ⟨ms, rfl⟩ := hobjects j List.mem_cons_self
    obtain ⟨fuel, rfl⟩ := Nat.exists_eq_succ_of_ne_zero (Nat.ne_zero_of_lt hfuel)
    have hcomma : Source.EndsValue (some ',' :: (cs.map some ++ some ']' :: rest)) :=
      Source.endsValue_cons (by decide) _
    have hnext := nextItem_object hx hsep hb hj (Source.endsValue_append hb' hcomma)
    have hitems := ih (List.cons_ne_nil j' js) hxs
      (fun j hj => hobjects j (List.mem_cons_of_mem _ hj)) (Nat.lt_of_succ_lt_succ hfuel)
      (.comma hb')
    simp only [List.map_append, List.map_cons, List.map_nil, List.append_assoc, List.cons_append,
      List.nil_append] at hitems ⊢
    exact items_of_next hnext hitems

/-- An array of objects is read item by item. -/
theorem reads_list {item : Reader α} {js : List Json} {xs : List α}
    (hxs : List.Forall₂ (Reads item) js xs) (hobjects : ∀ j ∈ js, ∃ ms, j = .object ms) :
    Reads (list item) (.array js) xs := by
  intro cs hcs b hb rest _
  cases hcs with | @array _ cs hcs
  rw [List.map_append, List.append_assoc, List.map_cons, List.cons_append, list,
    next?_bind hb rfl]
  dsimp only
  rw [if_pos rfl, advance_bind, List.map_singleton, List.singleton_append]
  have hitems : items item ((cs.map some ++ some ']' :: rest).length + 1) true
      (cs.map some ++ some ']' :: rest) = .ok (xs, some ']' :: rest) := by
    by_cases hne : js = []
    · subst hne
      cases hxs
      cases hcs with | nil hb'
      exact items_of_end (Nat.succ_pos _) (nextItem_end hb' ..)
    · refine items_of_listed hcs hne hxs hobjects ?_ .opening rest
      have hlength := hcs.length_le
      simp only [List.length_append, List.length_map, List.length_cons]
      omega
  rw [arrayTail, get_bind, bind_apply_of_eq_ok hitems]
  rfl

/-! ### Objects -/

theorem nextKey_end {b : List Char} (hb : IsBlank b) (first : Bool) (rest : Source) :
    nextKey first (b.map some ++ some '\x7d' :: rest) = .ok (none, some '\x7d' :: rest) :=
  next?_bind hb rfl _ _

/-- The quoted text of a key, with any characters escaped. -/
def IsKeyText (key : String) (cs : List Char) : Prop :=
  ∃ inner, cs = '"' :: inner ∧
    ∀ rest : Source, textTail (inner.map some ++ rest) = .ok (key, rest)

theorem isKeyText_quoted (key : String) : IsKeyText key (quoted key) :=
  ⟨(quoted key).tail, rfl, textTail_quoted key⟩

theorem nextKey_of_isKeyText {key : String} {cs : List Char} (hcs : IsKeyText key cs)
    {first : Bool} {sep b : List Char} (hsep : Separates first sep) (hb : IsBlank b)
    (rest : Source) :
    nextKey first (sep.map some ++ (b.map some ++ (cs.map some ++ rest))) =
      .ok (some key, rest) := by
  obtain ⟨inner, rfl, htext⟩ := hcs
  rw [List.map_cons, List.cons_append]
  cases hsep with
  | opening =>
    rw [List.map_nil, List.nil_append, nextKey, next?_bind hb rfl]
    dsimp only
    rw [if_neg (by decide), if_pos rfl, if_pos rfl, advance_bind]
    exact bind_apply_of_eq_ok (htext rest)
  | comma hb' =>
    rw [List.map_append, List.append_assoc, List.map_singleton, List.singleton_append, nextKey,
      next?_bind hb' rfl]
    dsimp only
    rw [if_neg (by decide), if_neg Bool.false_ne_true, if_neg (by decide), advance_bind,
      next?_bind hb rfl]
    dsimp only
    rw [if_pos rfl, advance_bind]
    exact bind_apply_of_eq_ok (htext rest)

theorem colon_eq_ok {b : List Char} (hb : IsBlank b) (rest : Source) :
    colon (b.map some ++ some ':' :: rest) = .ok ((), rest) :=
  next?_bind hb rfl _ _

namespace Record

variable {r : Record σ α}

/-- The members of an object lead from one draft of a record to another: each of them belongs to a
field that the draft does not have yet, and is read into it. -/
inductive Fills (r : Record σ α) : List (String × Json) → σ → σ → Prop
  | nil (draft : σ) : Fills r [] draft draft
  | cons {key : String} {j : Json} {ms : List (String × Json)} {draft draft' draft'' : σ}
    {field : Field σ} (hfield : r.fields.find? (·.name == key) = some field)
    (hnew : field.isGiven draft = false) (hfill : Reads (field.fill draft) j draft')
    (hms : Fills r ms draft' draft'') : Fills r ((key, j) :: ms) draft draft''

/-- A member of a field that a draft does not have yet is read into the draft. -/
theorem fillMember_eq {key : String} {draft : σ} {field : Field σ}
    (hfield : r.fields.find? (·.name == key) = some field) (hnew : field.isGiven draft = false)
    {b : List Char} (hb : IsBlank b) (rest : Source) :
    r.fillMember key draft (b.map some ++ some ':' :: rest) = field.fill draft rest := by
  rw [fillMember, hfield]
  dsimp only
  rw [hnew, if_neg Bool.false_ne_true]
  exact bind_apply_of_eq_ok (colon_eq_ok hb _)

theorem fillMembers_of_end {fuel : Nat} (hfuel : 0 < fuel) {first : Bool} {src src' : Source}
    (hend : nextKey first src = .ok (none, src')) (draft : σ) :
    r.fillMembers fuel first draft src = .ok (draft, src') := by
  obtain ⟨fuel, rfl⟩ := Nat.exists_eq_succ_of_ne_zero hfuel.ne'
  rw [fillMembers, bind_apply_of_eq_ok hend]
  rfl

theorem fillMembers_of_next {fuel : Nat} {first : Bool} {key : String} {draft draft' draft'' : σ}
    {src src' src'' src₃ : Source} (hkey : nextKey first src = .ok (some key, src'))
    (hmember : r.fillMember key draft src' = .ok (draft', src''))
    (hmembers : r.fillMembers fuel false draft' src'' = .ok (draft'', src₃)) :
    r.fillMembers (fuel + 1) first draft src = .ok (draft'', src₃) := by
  rw [fillMembers, bind_apply_of_eq_ok hkey]
  dsimp only
  rw [bind_apply_of_eq_ok hmember, hmembers]

/-- The members of an object that has some. -/
theorem fillMembers_of_listed {ms : List (String × Json)} {cs : List Char}
    (hcs : Listed (MemberText Spells) ms cs) (hne : ms ≠ []) {draft draft' : σ}
    (hfills : r.Fills ms draft draft') {fuel : Nat} (hfuel : ms.length < fuel) {first : Bool}
    {sep : List Char} (hsep : Separates first sep) (rest : Source) :
    r.fillMembers fuel first draft (sep.map some ++ (cs.map some ++ some '\x7d' :: rest)) =
      .ok (draft', some '\x7d' :: rest) := by
  have hclose : Source.EndsValue (some '\x7d' :: rest) := Source.endsValue_cons (by decide) rest
  -- As for arrays; the draft grows by one field with each member.
  induction hcs generalizing draft fuel first sep with
  | nil => exact absurd rfl hne
  | @single b v b' m hb hm hb' =>
    cases hm with | @intro c c' v j key hc hc' hj
    cases hfills with | cons hfield hnew hfill hnil
    cases hnil
    obtain ⟨fuel, rfl⟩ := Nat.exists_eq_succ_of_ne_zero (Nat.ne_zero_of_lt hfuel)
    have hmember := (fillMember_eq hfield hnew hc _).trans
      (hfill hj hc' (Source.endsValue_append hb' hclose))
    simp only [List.map_append, List.map_cons, List.append_assoc, List.cons_append]
    exact fillMembers_of_next (nextKey_of_isKeyText (isKeyText_quoted key) hsep hb _) hmember
      (fillMembers_of_end (Nat.lt_of_succ_lt_succ hfuel) (nextKey_end hb' ..) _)
  | @cons b v b' cs m m' ms hb hm hb' hms ih =>
    cases hm with | @intro c c' v j key hc hc' hj
    cases hfills with | cons hfield hnew hfill hfills
    obtain ⟨fuel, rfl⟩ := Nat.exists_eq_succ_of_ne_zero (Nat.ne_zero_of_lt hfuel)
    have hcomma : Source.EndsValue (some ',' :: (cs.map some ++ some '\x7d' :: rest)) :=
      Source.endsValue_cons (by decide) _
    have hmember := (fillMember_eq hfield hnew hc _).trans
      (hfill hj hc' (Source.endsValue_append hb' hcomma))
    have hmembers := ih (List.cons_ne_nil m' ms) hfills (Nat.lt_of_succ_lt_succ hfuel)
      (.comma hb')
    simp only [List.map_append, List.map_cons, List.map_nil, List.append_assoc, List.cons_append,
      List.nil_append] at hmembers ⊢
    exact fillMembers_of_next (nextKey_of_isKeyText (isKeyText_quoted key) hsep hb _) hmember
      hmembers

/-- **An object is read as a record** when its members fill a draft of the record. -/
theorem reads {ms : List (String × Json)} {draft : σ} {x : α} (hfills : r.Fills ms r.blank draft)
    (hbuild : r.build draft = .ok x) : Reads r.read (.object ms) x := by
  intro cs hcs b hb rest _
  cases hcs with | @object _ cs hcs
  rw [List.map_append, List.append_assoc, List.map_cons, List.cons_append, Record.read,
    next?_bind hb rfl]
  dsimp only
  rw [if_pos rfl, advance_bind, List.map_singleton, List.singleton_append]
  have hmembers : r.fillMembers ((cs.map some ++ some '\x7d' :: rest).length + 1) true r.blank
      (cs.map some ++ some '\x7d' :: rest) = .ok (draft, some '\x7d' :: rest) := by
    by_cases hne : ms = []
    · subst hne
      cases hfills
      cases hcs with | nil hb'
      exact fillMembers_of_end (Nat.succ_pos _) (nextKey_end hb' ..) _
    · refine fillMembers_of_listed hcs hne hfills ?_ .opening rest
      have hlength := hcs.length_le
      simp only [List.length_append, List.length_map, List.length_cons]
      omega
  rw [get_bind, bind_apply_of_eq_ok hmembers, hbuild]
  rfl

end Record

/-- The value of a field is read into the draft. -/
theorem Reads.fill {read : Reader β} {j : Json} {x : β} (h : Reads read j x) (name : String)
    (get : σ → Option β) (set : σ → β → σ) (mayEnd : Bool) (draft : σ) :
    Reads ((Field.of name get set read mayEnd).fill draft) j (set draft x) := by
  intro cs hcs b hb rest hrest
  exact bind_apply_of_eq_ok (h hcs hb hrest)

/-! ### Drafts of records -/

theorem map_unexpected (f : α → β) (wanted : String) (c : Option Char) :
    f <$> (unexpected wanted c : Reader α) = unexpected wanted c := by
  simp only [unexpected]
  split_ifs <;> try simp only [map_bind]
  all_goals rfl

namespace Record

variable {r : Record σ α}

/-- The record whose values are the drafts. -/
def drafts (r : Record σ α) : Record σ σ where
  name := r.name
  fields := r.fields
  blank := r.blank
  build := .ok

end Record

/-! ### Whole texts -/

/-- The characters of a text that is stored as bytes. -/
theorem Source.ofBytes_toUTF8 (text : String) : ofBytes text.toUTF8 = ofString text := by
  have hdecode : String.fromUTF8? text.toUTF8 = some text := dif_pos text.isValidUTF8
  rw [ofBytes, hdecode]

/-- A whole text is read when its value is, with nothing but blanks behind it. -/
theorem document_eq_ok_iff {read : Reader α} {src : Source} {x : α} :
    document read src = .ok x ↔ ∃ rest : Source, read src = .ok (x, rest) ∧
      (rest.dropWhile isSpace).isEmpty := by
  constructor
  · intro h
    obtain ⟨⟨y, rest⟩, hread, hend⟩ := bind_eq_ok_iff.1 h
    dsimp only at hend
    split at hend
    case isTrue hblank =>
      cases hend
      exact ⟨rest, hread, hblank⟩
    case isFalse => exact nomatch hend
  · rintro ⟨rest, hread, hblank⟩
    exact bind_eq_ok_iff.2 ⟨(x, rest), hread, if_pos hblank⟩

/-- **A value is read from the bytes of each of its texts.** -/
theorem Reads.document_eq {read : Reader α} {j : Json} {x : α} (h : Reads read j x)
    {text : String} (htext : j.IsText text) :
    document read (.ofBytes text.toUTF8) = .ok x := by
  obtain ⟨b, cs, b', hb, hcs, hb', htext⟩ := htext
  have hread := h hcs hb (Source.endsValue_append hb' Source.endsValue_nil)
  have hrest : (b'.map some ++ []).dropWhile isSpace = ([] : Source) := by
    rw [List.dropWhile_append_of_pos (List.forall_mem_map.2 hb')]
    rfl
  rw [Source.ofBytes_toUTF8, Source.ofString, htext, List.map_append, List.map_append,
    List.append_assoc, ← List.append_nil (b'.map some)]
  refine bind_eq_ok_iff.2 ⟨_, hread, ?_⟩
  dsimp only
  rw [hrest]
  rfl

end Matchday.Json
